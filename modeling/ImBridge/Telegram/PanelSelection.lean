import ImBridge.Bridge.ErrorMapper
import ImBridge.Telegram.Panel

/-!
# Selecting from panels

The panels of characters, of the chats of a character and of recent chats, and what pressing one of
their buttons selects. A button names its item by a page and a place. The panels of characters and
chats have the whole list on every page and name an item by its place in the list; pressing a button
takes the place to be one within the page. The panel of recent chats has up to eight pages, and
pressing a button looks at the items of the first page only.

## Main definitions

* `MenuCall`, `MenuTask`: calls and tasks of the handlers
* `listCharacters`, `listHistory`, `recentPanel`: showing a panel
* `selectCharacter`, `openHistory`, `openRecent`, `handlePanelCallback`: pressing a button
* `Menu`, `Menu.press`: the lists of the chat backend, and what a button selects from them

## Main results

* `hasButtons_renderCharacters`, `hasButtons_renderHistory`, `hasButtons_renderRecent`: each item
  has a button
* `Menu.commands_selectCharacter`, `Menu.commands_openHistory`, `Menu.commands_openRecent`: what a
  page and a place select
* `button_selects`: when a button selects the item it was rendered for
* `button_second_page`: the buttons on the second page of each panel
-/

namespace ImBridge

open Interleaving Fallible

/-! ## Handlers -/

/-- The commands that select something. -/
inductive SelectCommand
  | selectCharacter (avatar characterName : String)
  | selectChat (locator : StChatLocator)
  deriving DecidableEq, Repr

/-- What a query for a list answers. -/
inductive CatalogView
  | characters (items : List StCharacterSummary)
  | chats (items : List StChatSummary)

structure MenuReply where
  text : String
  panel : Option TelegramPanel

inductive MenuCall
  /-- Whether there is a bridge to the chat backend. -/
  | bridge
  | queryCharacters
  | queryChats (avatar : String)
  | execute (command : SelectCommand)
  | loadChannel
  | listRecent (limit : ℕ)
  /-- The panel of the selected chat. -/
  | currentState
  /-- What other buttons do. -/
  | otherPanel (action : CallbackAction)

@[reducible] def MenuCall.Reply : MenuCall → Type
  | bridge => Bool
  | queryCharacters => StResult CatalogView
  | queryChats _ => StResult CatalogView
  | execute _ => StResult Unit
  | loadChannel => AppResult StChannelLocator
  | listRecent _ => AppResult (List StChannelLocator)
  | currentState => Except ChatError (List MenuReply)
  | otherPanel _ => Except ChatError (List MenuReply)

abbrev menuCalls : Signature := ⟨MenuCall, MenuCall.Reply⟩

/-- Tasks of the handlers, which may fail. -/
abbrev MenuTask (α : Type) := Fallible menuCalls ChatError α

def askMenu (c : MenuCall) : Program menuCalls c.Reply := Program.perform (σ := menuCalls) c

def requireBridge : MenuTask Unit := do
  unless ← askMenu .bridge do
    throw (.fromSt
      { code := .stWriteNotReady, stage := .control, safeMessage := stWriteNotReadyMessage
        retryable := false, commitState := .notStarted })

/-- A reply of the chat backend. -/
def stReply {α : Type} (p : Program menuCalls (StResult α)) : MenuTask α :=
  ExceptT.mk do return (← p).mapError .fromSt

/-- A reply of the bridge's own storage. -/
def appReply {α : Type} (p : Program menuCalls (AppResult α)) : MenuTask α :=
  ExceptT.mk do return (← p).mapError .ofApp

def queryCharacters : MenuTask (List StCharacterSummary) := do
  match ← stReply (askMenu .queryCharacters) with
  | .characters items => return items
  | _ => throw (.fromSt
      { code := .stCharacterListFailed, stage := .catalog,
        safeMessage := "character list unavailable"
        retryable := false, commitState := .notStarted })

def queryChats (avatar : String) : MenuTask (List StChatSummary) := do
  requireBridge
  match ← stReply (askMenu (.queryChats avatar)) with
  | .chats items => return items
  | _ => throw (.fromSt
      { code := .stChatListFailed, stage := .catalog, safeMessage := "chat list unavailable"
        retryable := false, commitState := .notStarted })

def executeCommand (command : SelectCommand) : MenuTask Unit := do
  requireBridge
  stReply (askMenu (.execute command))

def notice (text : String) : List MenuReply := [⟨text, none⟩]

def panelReply (panel : TelegramPanel) : List MenuReply := [⟨panel.text, some panel⟩]

def listCharacters (page : UInt64) : MenuTask (List MenuReply) := do
  requireBridge
  let items ← queryCharacters
  return panelReply (renderCharacters items page items.length)

def listHistory (page : UInt64) : MenuTask (List MenuReply) := do
  let locator ← appReply (askMenu .loadChannel)
  match locator.avatar with
  | none => return notice "当前还没有选择角色。请先使用 /chars。"
  | some avatar => do
    let chats ← queryChats avatar
    return panelReply (renderHistory (locator.characterName.getD "未选择") chats page chats.length)

def recentPanel (page : UInt64) : MenuTask (List MenuReply) := do
  let items ← appReply (askMenu (.listRecent 64))
  return panelReply (renderRecent items page)

def selectCharacter (page index : UInt64) : MenuTask (List MenuReply) := do
  requireBridge
  let items ← queryCharacters
  match items[page.toNat * pageSize + index.toNat]? with
  | none => return notice "角色选择已失效，请重新发送 /chars。"
  | some character => do
    executeCommand (.selectCharacter character.avatar character.name)
    listHistory 0

def openHistory (page index : UInt64) : MenuTask (List MenuReply) := do
  let locator ← appReply (askMenu .loadChannel)
  match locator.avatar with
  | none => return notice "当前还没有选择角色。请先使用 /chars。"
  | some avatar => do
    let chats ← queryChats avatar
    match chats[page.toNat * pageSize + index.toNat]? with
    | none => return notice "会话选择已失效，请重新发送 /hist。"
    | some chat => do
      executeCommand (.selectChat
        { handle := locator.handle.getD "default-user", avatar
          characterName := locator.characterName.getD "", chatFile := chat.chatFile })
      ExceptT.mk (askMenu .currentState)

def openRecent (index : ℕ) : MenuTask (List MenuReply) := do
  let recent ← appReply (askMenu (.listRecent pageSize))
  let expired := notice "最近会话选择已失效，请重新发送 /recent。"
  match recent[index]? with
  | none => return expired
  | some item =>
    match item.avatar, item.chatFile with
    | some avatar, some chatFile => do
      let chats ← queryChats avatar
      if chats.any fun chat => chat.chatFile == chatFile then
        executeCommand (.selectChat
          { handle := item.handle.getD "default-user", avatar
            characterName := item.characterName.getD "", chatFile })
        ExceptT.mk (askMenu .currentState)
      else return notice "该最近会话在 SillyTavern 中已不存在。"
    | _, _ => return expired

def handlePanelCallback : CallbackAction → MenuTask (List MenuReply)
  | .characters page => listCharacters page
  | .history page => listHistory page
  | .recent page => recentPanel page
  | .now => ExceptT.mk (askMenu .currentState)
  | .selectCharacter page index => selectCharacter page index
  | .selectHistory page index => openHistory page index
  | .selectRecent page index => openRecent (page.toNat * pageSize + index.toNat)
  | action => ExceptT.mk (askMenu (.otherPanel action))

/-! ## The lists of the chat backend -/

/-- The lists that panels are rendered from, and what is selected. Their lengths are machine
words. -/
structure Menu where
  characters : List StCharacterSummary
  chats : String → List StChatSummary
  recent : List StChannelLocator
  locator : StChannelLocator
  characters_lt : characters.length < 2 ^ 64
  chats_lt : ∀ avatar, (chats avatar).length < 2 ^ 64

variable {item : StChannelLocator}

namespace Menu

/-- The replies while the lists stay the same and nothing fails, with the commands so far. -/
def handle (menu : Menu) (c : MenuCall) (commands : List SelectCommand) :
    c.Reply × List SelectCommand :=
  match c with
  | .bridge => (true, commands)
  | .queryCharacters => (.ok (.characters menu.characters), commands)
  | .queryChats avatar => (.ok (.chats (menu.chats avatar)), commands)
  | .execute command => (.ok (), commands ++ [command])
  | .loadChannel => (.ok menu.locator, commands)
  | .listRecent limit => (.ok (menu.recent.take limit), commands)
  | .currentState => (.ok [], commands)
  | .otherPanel _ => (.ok [], commands)

/-- The commands of a task. -/
def commands {α : Type} (menu : Menu) (task : MenuTask α) : List SelectCommand :=
  (task.run.interpret menu.handle []).2

/-- The commands of pressing a button. -/
def press (menu : Menu) (button : InlineButton) : List SelectCommand :=
  match decodeStoredAction button.callbackData with
  | .ok action => menu.commands (handlePanelCallback action)
  | .error _ => []

/-- The panel that a task shows. -/
def panel? (menu : Menu) (task : MenuTask (List MenuReply)) : Option TelegramPanel :=
  match (task.run.interpret menu.handle []).1 with
  | .ok [reply] => reply.panel
  | _ => none

/-- The button at a place of the panel that a task shows. -/
def button? (menu : Menu) (task : MenuTask (List MenuReply)) (place : ℕ) : Option InlineButton :=
  (menu.panel? task).bind fun panel => panel.keyboard.flatten[place]?

/-! ## What a page and a place select -/

variable (menu : Menu) (commands : List SelectCommand)

theorem interpret_requireBridge :
    requireBridge.run.interpret menu.handle commands = (.ok (), commands) := rfl

theorem interpret_queryCharacters :
    queryCharacters.run.interpret menu.handle commands = (.ok menu.characters, commands) := rfl

theorem interpret_queryChats (avatar : String) (commands : List SelectCommand) :
    (queryChats avatar).run.interpret menu.handle commands =
      (.ok (menu.chats avatar), commands) := rfl

theorem interpret_executeCommand (command : SelectCommand) (commands : List SelectCommand) :
    (executeCommand command).run.interpret menu.handle commands =
      (.ok (), commands ++ [command]) := rfl

theorem interpret_loadChannel :
    (appReply (askMenu .loadChannel)).run.interpret menu.handle commands =
      (.ok menu.locator, commands) := rfl

theorem interpret_listRecent (limit : ℕ) (commands : List SelectCommand) :
    (appReply (askMenu (.listRecent limit))).run.interpret menu.handle commands =
      (.ok (menu.recent.take limit), commands) := rfl

theorem interpret_listHistory_snd (page : UInt64) (commands : List SelectCommand) :
    ((listHistory page).run.interpret menu.handle commands).2 = commands := by
  rw [listHistory, interpret_bind_ok _ (menu.interpret_loadChannel commands)]
  cases menu.locator.avatar with
  | none => rfl
  | some avatar => rfl

theorem commands_selectCharacter (page index : UInt64) :
    menu.commands (selectCharacter page index) =
      (menu.characters[page.toNat * pageSize + index.toNat]?.map fun character =>
        SelectCommand.selectCharacter character.avatar character.name).toList := by
  rw [commands, selectCharacter, interpret_bind_ok _ (menu.interpret_requireBridge _),
    interpret_bind_ok _ (menu.interpret_queryCharacters _)]
  cases menu.characters[page.toNat * pageSize + index.toNat]? with
  | none => rfl
  | some character =>
    dsimp only
    -- the chats of the character are shown next, which selects nothing
    rw [interpret_bind_ok _ (menu.interpret_executeCommand _ _),
      interpret_listHistory_snd]
    rfl

/-- The chat of an avatar and name that is selected in a channel. -/
def locatorOf (item : StChannelLocator) (avatar chatFile : String) : StChatLocator :=
  { handle := item.handle.getD "default-user", avatar
    characterName := item.characterName.getD "", chatFile }

theorem commands_openHistory {avatar : String} (havatar : menu.locator.avatar = some avatar)
    (page index : UInt64) :
    menu.commands (openHistory page index) =
      ((menu.chats avatar)[page.toNat * pageSize + index.toNat]?.map fun chat =>
        SelectCommand.selectChat (locatorOf menu.locator avatar chat.chatFile)).toList := by
  rw [commands, openHistory, interpret_bind_ok _ (menu.interpret_loadChannel _), havatar]
  dsimp only
  rw [interpret_bind_ok _ (menu.interpret_queryChats avatar _)]
  cases (menu.chats avatar)[page.toNat * pageSize + index.toNat]? with
  | none => rfl
  | some chat => rfl

/-- The chat of this avatar and name is listed. -/
def Lists (avatar chatFile : String) : Prop :=
  ∃ chat ∈ menu.chats avatar, chat.chatFile = chatFile

theorem any_chatFile {avatar chatFile : String} :
    ((menu.chats avatar).any fun chat => chat.chatFile == chatFile) = true ↔
      menu.Lists avatar chatFile := by
  simp [Lists]

theorem commands_openRecent_of_none {index : ℕ} (h : (menu.recent.take pageSize)[index]? = none) :
    menu.commands (openRecent index) = [] := by
  rw [commands, openRecent, interpret_bind_ok _ (menu.interpret_listRecent _ _)]
  simp only [h]
  rfl

theorem commands_openRecent {index : ℕ} {avatar chatFile : String}
    (h : (menu.recent.take pageSize)[index]? = some item) (havatar : item.avatar = some avatar)
    (hchatFile : item.chatFile = some chatFile) :
    menu.commands (openRecent index) = [.selectChat (locatorOf item avatar chatFile)] ↔
      menu.Lists avatar chatFile := by
  rw [commands, openRecent, interpret_bind_ok _ (menu.interpret_listRecent _ _), h]
  simp only [havatar, hchatFile]
  rw [interpret_bind_ok _ (menu.interpret_queryChats avatar _)]
  constructor
  · intro hcommands
    by_contra hlists
    rw [if_neg (mt menu.any_chatFile.mp hlists)] at hcommands
    cases hcommands
  · intro hlists
    rw [if_pos (menu.any_chatFile.mpr hlists)]
    rfl

theorem press_of_callbackData {button : InlineButton} {action : CallbackAction}
    (h : button.callbackData = action.legacyData) (hnames : action.names = []) :
    menu.press button = menu.commands (handlePanelCallback action) := by
  have hread := parseLegacyCallbackData_legacyData.mpr
    ⟨rfl, CallbackAction.readable_of_names hnames⟩
  rw [press, h, decodeStoredAction, hread]

end Menu

/-! ## The buttons of items -/

/-- The page that a list is shown at. -/
def listPage {α : Type} (items : List α) (page : UInt64) : ℕ :=
  min page.toNat (totalPages items.length pageSize - 1)

theorem listPage_lt {α : Type} (items : List α) (page : UInt64) : listPage items page < 2 ^ 64 :=
  (min_le_left _ _).trans_lt page.toNat_lt

/-- The panel starts with a button for each item of a list. -/
def HasButtons {α : Type} (panel : TelegramPanel) (items : List α) (data : ℕ → String) : Prop :=
  ∃ (label : α × ℕ → String) (rest : List InlineButton), panel.keyboard.flatten =
    (items.zipIdx.map fun item => button (label item) (data item.2)) ++ rest

variable {i : ℕ}

theorem HasButtons.exists_button {α : Type} {panel : TelegramPanel} {items : List α}
    {data : ℕ → String} (h : HasButtons panel items data) {action : CallbackAction}
    (hi : i < items.length) (hdata : data i = action.legacyData) :
    ∃ b, panel.keyboard.flatten[i]? = some b ∧ b.callbackData = action.legacyData := by
  obtain ⟨label, rest, hkeyboard⟩ := h
  have hlt : i < (items.zipIdx.map fun item => button (label item) (data item.2)).length := by
    simpa using hi
  refine ⟨button (label (items[i], i)) (data i), ?_, ?_⟩
  · rw [hkeyboard, List.getElem?_append_left hlt]
    simp [hi]
  · rw [hdata]
    exact opaqueCallback_legacyData action

theorem hasButtons_renderCharacters (chars : List StCharacterSummary) (page : UInt64) :
    HasButtons (renderCharacters chars page chars.length) chars
      fun index => s!"cb:sel_char:{listPage chars page}:{index}" := by
  refine ⟨fun item => s!"{item.2 + 1} " ++ redactLabel item.1.name, ?_⟩
  simp only [renderCharacters, newPanel, List.flatten_append, flatten_rowsOfTwo, max_self,
    List.append_assoc]
  exact ⟨_, rfl⟩

theorem hasButtons_renderHistory (characterName : String) (chats : List StChatSummary)
    (page : UInt64) :
    HasButtons (renderHistory characterName chats page chats.length) chats
      fun index => s!"cb:sel_hist:{listPage chats page}:{index}" := by
  refine ⟨fun item => redactLabel (item.1.title.getD item.1.chatFile), ?_⟩
  simp only [renderHistory, newPanel, List.flatten_append, flatten_map_single, max_self,
    List.append_assoc]
  exact ⟨_, rfl⟩

theorem hasButtons_renderRecent (items : List StChannelLocator) (page : UInt64) :
    HasButtons (renderRecent items page) (onPage items (listPage items page))
      fun index => s!"cb:sel_recent:{listPage items page}:{index}" := by
  refine ⟨fun item =>
    ((item.1.chatFile.or item.1.characterName).map redactLabel).getD "未命名会话", ?_⟩
  simp only [renderRecent, newPanel, List.flatten_append, flatten_map_single, List.append_assoc]
  exact ⟨_, rfl⟩

/-- The data of an action with a page and a place. -/
theorem legacyData_place (action : CallbackAction) {start : String} {page index : ℕ}
    (hstart : "cb:" ++ action.tag ++ ":" = start)
    (hfields : action.fields = [toString page, toString index]) :
    start ++ toString page ++ ":" ++ toString index = action.legacyData := by
  rw [← hstart, CallbackAction.legacyData, CallbackAction.parts, hfields]
  rfl

/-! ## What a button selects -/

section Selects

variable (menu : Menu) (page : UInt64)

theorem exists_button_character {character : StCharacterSummary}
    (h : menu.characters[i]? = some character) :
    ∃ button, menu.button? (listCharacters page) i = some button ∧
      menu.press button =
        (menu.characters[listPage menu.characters page * pageSize + i]?.map fun character =>
          SelectCommand.selectCharacter character.avatar character.name).toList := by
  have hi := (List.getElem?_eq_some_iff.mp h).1
  have hplace := toNat_ofNat_of_lt (hi.trans menu.characters_lt)
  have hpage := toNat_ofNat_of_lt (listPage_lt menu.characters page)
  have hdata := legacyData_place
    (.selectCharacter (.ofNat (listPage menu.characters page)) (.ofNat i)) rfl
    (by rw [CallbackAction.fields, hpage, hplace])
  obtain ⟨button, hbutton, hpress⟩ :=
    (hasButtons_renderCharacters menu.characters page).exists_button hi hdata
  refine ⟨button, hbutton, ?_⟩
  calc
    menu.press button = menu.commands (selectCharacter _ _) := menu.press_of_callbackData hpress rfl
    _ = _ := by rw [menu.commands_selectCharacter, hpage, hplace]

theorem exists_button_chat {avatar : String} (havatar : menu.locator.avatar = some avatar)
    {chat : StChatSummary} (h : (menu.chats avatar)[i]? = some chat) :
    ∃ button, menu.button? (listHistory page) i = some button ∧
      menu.press button =
        ((menu.chats avatar)[listPage (menu.chats avatar) page * pageSize + i]?.map fun chat =>
          SelectCommand.selectChat (Menu.locatorOf menu.locator avatar chat.chatFile)).toList := by
  have hi := (List.getElem?_eq_some_iff.mp h).1
  have hplace := toNat_ofNat_of_lt (hi.trans (menu.chats_lt avatar))
  have hpage := toNat_ofNat_of_lt (listPage_lt (menu.chats avatar) page)
  have hdata := legacyData_place
    (.selectHistory (.ofNat (listPage (menu.chats avatar) page)) (.ofNat i)) rfl
    (by rw [CallbackAction.fields, hpage, hplace])
  obtain ⟨button, hbutton, hpress⟩ := (hasButtons_renderHistory
    (menu.locator.characterName.getD "未选择") (menu.chats avatar) page).exists_button hi hdata
  refine ⟨button, ?_, ?_⟩
  · rw [Menu.button?, Menu.panel?, listHistory,
      interpret_bind_ok _ (menu.interpret_loadChannel _), havatar]
    exact hbutton
  · calc
      menu.press button = menu.commands (openHistory _ _) := menu.press_of_callbackData hpress rfl
      _ = _ := by rw [menu.commands_openHistory havatar, hpage, hplace]

theorem exists_button_recent
    (h : (onPage (menu.recent.take 64) (listPage (menu.recent.take 64) page))[i]? = some item) :
    ∃ button, menu.button? (recentPanel page) i = some button ∧
      menu.press button =
        menu.commands (openRecent (listPage (menu.recent.take 64) page * pageSize + i)) := by
  have hi := (List.getElem?_eq_some_iff.mp h).1
  have hsize : i < pageSize := hi.trans_le (List.length_take_le _ _)
  have hplace := toNat_ofNat_of_lt (hsize.trans (by decide))
  have hpage := toNat_ofNat_of_lt (listPage_lt (menu.recent.take 64) page)
  have hdata := legacyData_place
    (.selectRecent (.ofNat (listPage (menu.recent.take 64) page)) (.ofNat i)) rfl
    (by rw [CallbackAction.fields, hpage, hplace])
  obtain ⟨button, hbutton, hpress⟩ :=
    (hasButtons_renderRecent (menu.recent.take 64) page).exists_button hi hdata
  refine ⟨button, hbutton, ?_⟩
  calc
    menu.press button = menu.commands (openRecent _) := menu.press_of_callbackData hpress rfl
    _ = _ := by rw [hpage, hplace]

/-- The recent chats of the first page are those that are looked at when a button is pressed. -/
theorem getElem?_take_pageSize {items : List StChannelLocator} {p i : ℕ}
    (h : (onPage (items.take 64) p)[i]? = some item) :
    (items.take pageSize)[p * pageSize + i]? = if p = 0 then some item else none := by
  have hsize : i < pageSize :=
    (List.getElem?_eq_some_iff.mp h).1.trans_le (List.length_take_le _ _)
  split
  · rename_i hp
    subst hp
    rw [onPage, List.getElem?_take_of_lt hsize, List.getElem?_drop] at h
    simp only [Nat.zero_mul, Nat.zero_add] at h ⊢
    rw [List.getElem?_take_of_lt hsize]
    rw [List.getElem?_take_of_lt (hsize.trans (by decide))] at h
    exact h
  · rename_i hp
    rw [List.getElem?_take_eq_none]
    have := Nat.le_mul_of_pos_left pageSize (Nat.pos_of_ne_zero hp)
    omega

end Selects

/-- **A button selects the item it was rendered for** if the item at its place of the page, counted
from the start of the list, is the same. A recent chat is only selected from the first page. -/
theorem button_selects (menu : Menu) (page : UInt64) :
    (∀ i character, menu.characters[i]? = some character →
      ∃ button, menu.button? (listCharacters page) i = some button ∧
        (menu.press button = [.selectCharacter character.avatar character.name] ↔
          ∃ selected, menu.characters[listPage menu.characters page * pageSize + i]? =
              some selected ∧
            selected.avatar = character.avatar ∧ selected.name = character.name)) ∧
    (∀ avatar, menu.locator.avatar = some avatar →
      ∀ i chat, (menu.chats avatar)[i]? = some chat →
        ∃ button, menu.button? (listHistory page) i = some button ∧
          (menu.press button =
              [.selectChat (Menu.locatorOf menu.locator avatar chat.chatFile)] ↔
            ∃ selected, (menu.chats avatar)[listPage (menu.chats avatar) page * pageSize + i]? =
                some selected ∧
              selected.chatFile = chat.chatFile)) ∧
    (∀ i item, (onPage (menu.recent.take 64) (listPage (menu.recent.take 64) page))[i]? =
        some item →
      ∃ button, menu.button? (recentPanel page) i = some button ∧
        ((∃ avatar chatFile, item.avatar = some avatar ∧ item.chatFile = some chatFile ∧
            menu.press button = [.selectChat (Menu.locatorOf item avatar chatFile)]) ↔
          listPage (menu.recent.take 64) page = 0 ∧
            ∃ avatar chatFile, item.avatar = some avatar ∧ item.chatFile = some chatFile ∧
              menu.Lists avatar chatFile)) := by
  refine ⟨?_, ?_, ?_⟩
  · intro i character h
    obtain ⟨button, hbutton, hpress⟩ := exists_button_character menu page h
    refine ⟨button, hbutton, ?_⟩
    rw [hpress]
    simp [Option.toList_eq_singleton_iff]
  · intro avatar havatar i chat h
    obtain ⟨button, hbutton, hpress⟩ := exists_button_chat menu page havatar h
    refine ⟨button, hbutton, ?_⟩
    rw [hpress]
    simp [Option.toList_eq_singleton_iff, Menu.locatorOf]
  · intro i item h
    obtain ⟨button, hbutton, hpress⟩ := exists_button_recent menu page h
    refine ⟨button, hbutton, ?_⟩
    have hitem := getElem?_take_pageSize h
    rw [hpress]
    split at hitem
    · rename_i hpage
      simp only [hpage, true_and]
      rw [hpage] at hitem
      constructor
      · rintro ⟨avatar, chatFile, havatar, hchatFile, hcommands⟩
        exact ⟨avatar, chatFile, havatar, hchatFile,
          (menu.commands_openRecent hitem havatar hchatFile).mp hcommands⟩
      · rintro ⟨avatar, chatFile, havatar, hchatFile, hlists⟩
        exact ⟨avatar, chatFile, havatar, hchatFile,
          (menu.commands_openRecent hitem havatar hchatFile).mpr hlists⟩
    · rename_i hpage
      rw [menu.commands_openRecent_of_none hitem]
      simp [hpage]

/-- Nine characters, nine chats of each and nine recent chats. -/
def nineOfEach : Menu where
  characters := (List.range 9).map fun n => { avatar := s!"{n}.png", name := s!"{n}" }
  chats _ := (List.range 9).map fun n => { chatFile := s!"{n}", title := none }
  recent := (List.range 9).map fun n =>
    { handle := none, avatar := some "0.png", characterName := none, chatFile := some s!"{n}" }
  locator := { handle := none, avatar := some "0.png", characterName := none, chatFile := none }
  characters_lt := by decide
  chats_lt _ := by decide

/-- The first button on the second page of each panel: for the first character, the first chat and
the ninth recent chat. -/
theorem button_second_page :
    nineOfEach.characters[0]?.map (·.avatar) = some "0.png" ∧
    (nineOfEach.chats "0.png")[0]?.map (·.chatFile) = some "0" ∧
    (nineOfEach.button? (listCharacters 1) 0).map nineOfEach.press =
      some [.selectCharacter "8.png" "8"] ∧
    (nineOfEach.button? (listHistory 1) 0).map nineOfEach.press =
      some [.selectChat ⟨"default-user", "0.png", "", "8"⟩] ∧
    (nineOfEach.button? (recentPanel 1) 0).map nineOfEach.press = some [] := by
  decide +kernel

end ImBridge
