import ImBridge.Telegram.CallbackData

/-!
# Panels

A panel is a message with a keyboard of buttons, of which each stands for an action. Panels are
rendered from the lists of the chat backend, eight items to a page, and a panel that is shown
already is replaced in its place.

Numbers of pages are machine words, and all that is computed from them here stays in their range as
long as eight times the number of pages does.

## Main definitions

* `PanelKind`, `InlineButton`, `TelegramPanel`: panels
* `renderCharacters`, `renderHistory`, `renderRecent`, `renderProviders`, `renderProviderModels`:
  the panels of lists
* `PanelSlot`, `PanelEffect`, `planEffect`: the place of a panel, and what is shown there next

## Main results

* `planEffect_replace`: a panel that is replaced has the next revision
-/

namespace ImBridge

inductive PanelKind
  | home
  | help
  | settings
  | status
  | characters (page : ℕ)
  | history (page : ℕ)
  | recent (page : ℕ)
  | currentState
  | providers (purpose : ModelPurpose) (page : ℕ)
  | providerModels (purpose : ModelPurpose) (providerKey : String) (page : ℕ)
  | operationProgress (operationId : String)
  deriving DecidableEq, Repr

structure InlineButton where
  label : String
  callbackData : String
  deriving DecidableEq, Repr

structure TelegramPanel where
  kind : PanelKind
  revision : UInt64
  catalogRevision : Option String
  text : String
  keyboard : List (List InlineButton)
  deriving DecidableEq, Repr

/-! ## Labels -/

def isProtectedText (value : String) : Bool :=
  let lowered := toAsciiLowercase value
  containsText "http://" lowered || containsText "https://" lowered ||
    containsText "bearer " lowered || containsText "token=" lowered ||
    containsText "api_key=" lowered || containsText "secret" lowered

def redactLabel (value : String) : String :=
  let value := trim value
  if isProtectedText value then "受保护对象" else String.ofList (value.toList.take 96)

/-! ## Keyboards -/

theorem toNat_ofNat_of_lt {n : ℕ} (h : n < 2 ^ 64) : (UInt64.ofNat n).toNat = n := by
  rw [UInt64.toNat_ofNat']
  exact Nat.mod_eq_of_lt h

/-- The function `panel`. -/
def newPanel (kind : PanelKind) (text : String) (keyboard : List (List InlineButton)) :
    TelegramPanel :=
  { kind, revision := 0, catalogRevision := none, text, keyboard }

def button (label callbackData : String) : InlineButton :=
  { label, callbackData := opaqueCallback callbackData }

def homeButton : List InlineButton := [button "返回首页" "cb:home"]

def providerModelsCallback (purpose : ModelPurpose) (providerKey : String) (page : ℕ) : String :=
  (CallbackAction.providerModels purpose providerKey (.ofNat page)).toCallbackData

def selectModelCallback (purpose : ModelPurpose) (providerKey modelId : String) : String :=
  (CallbackAction.selectModelById purpose providerKey modelId).toCallbackData

/-- The buttons to the pages before and after this one. -/
def pageButtons (page totalPages : ℕ) (token : ℕ → String) : List InlineButton :=
  (if 0 < page then [button "上一页" (token (page - 1))] else []) ++
    if page + 1 < totalPages then [button "下一页" (token (page + 1))] else []

/-- The row of these buttons, if there are any. -/
def navigation (page totalPages : ℕ) (token : ℕ → String) : List (List InlineButton) :=
  match pageButtons page totalPages token with
  | [] => []
  | nav => [nav]

def totalPages (total pageSize : ℕ) : ℕ := max ((total + pageSize - 1) / pageSize) 1

/-- The number of items on a page. -/
def pageSize : ℕ := 8

/-- The buttons in rows of two. -/
def rowsOfTwo : List InlineButton → List (List InlineButton)
  | first :: second :: rest => [first, second] :: rowsOfTwo rest
  | [single] => [[single]]
  | [] => []

theorem flatten_rowsOfTwo (buttons : List InlineButton) :
    (rowsOfTwo buttons).flatten = buttons := by
  induction buttons using rowsOfTwo.induct with
  | case1 first second rest ih => simp [rowsOfTwo, ih]
  | case2 single => rfl
  | case3 => rfl

theorem flatten_map_single {α : Type} (f : α → InlineButton) (items : List α) :
    (items.map fun item => [f item]).flatten = items.map f := by
  rw [← List.flatMap_def, ← List.map_eq_flatMap]

theorem flatten_navigation (page totalPages : ℕ) (token : ℕ → String) :
    (navigation page totalPages token).flatten = pageButtons page totalPages token := by
  unfold navigation
  split
  · rename_i h
    rw [h]
    rfl
  · simp

/-- The items on the page. -/
def onPage {α : Type} (items : List α) (page : ℕ) : List α :=
  (items.drop (page * pageSize)).take pageSize

/-- The lines of a numbered list, after some text. -/
def numbered (start : ℕ) (items : List String) : String :=
  String.join (items.zipIdx.map fun (item, index) => s!"\n{start + index + 1}. " ++ item)

/-! ## Panels of lists -/

def renderCharacters (chars : List StCharacterSummary) (page : UInt64) (total : ℕ) :
    TelegramPanel :=
  let pages := totalPages (max total chars.length) pageSize
  let page := min page.toNat (pages - 1)
  let text := s!"首页 > 角色列表\n\n请选择角色（第 {page + 1} / {pages} 页）：" ++
    (if chars.isEmpty then "\n\n当前没有可见角色。请刷新后重试。" else "") ++
    numbered 0 (chars.map fun character => redactLabel character.name)
  -- every character is on every page
  let items := chars.zipIdx.map fun (character, index) =>
    button (s!"{index + 1} " ++ redactLabel character.name) s!"cb:sel_char:{page}:{index}"
  newPanel (.characters page) text
    (rowsOfTwo items ++ navigation page pages (fun value => s!"cb:chars:{value}") ++ [homeButton])

def renderHistory (characterName : String) (chats : List StChatSummary) (page : UInt64)
    (total : ℕ) : TelegramPanel :=
  let pages := totalPages (max total chats.length) pageSize
  let page := min page.toNat (pages - 1)
  let title (chat : StChatSummary) := redactLabel (chat.title.getD chat.chatFile)
  let text := "首页 > 历史会话\n角色：" ++ redactLabel characterName ++
    s!"\n\n请选择会话（第 {page + 1} / {pages} 页）：" ++
    (if chats.isEmpty then "\n\n当前角色还没有历史会话。发送 /new 新建会话。" else "") ++
    numbered 0 (chats.map title)
  -- every chat is on every page
  let items := chats.zipIdx.map fun (chat, index) =>
    [button (title chat) s!"cb:sel_hist:{page}:{index}"]
  newPanel (.history page) text
    (items ++ navigation page pages (fun value => s!"cb:hist:{value}") ++ [homeButton])

def renderRecent (items : List StChannelLocator) (page : UInt64) : TelegramPanel :=
  let pages := totalPages items.length pageSize
  let page := min page.toNat (pages - 1)
  let start := page * pageSize
  let visible := (items.drop start).take pageSize
  let label (item : StChannelLocator) :=
    ((item.chatFile.or item.characterName).map redactLabel).getD "未命名会话"
  let text := s!"首页 > 最近会话\n\n最近会话（第 {page + 1} / {pages} 页）：" ++
    (if items.isEmpty then "\n\n还没有最近会话。" else "") ++ numbered start (visible.map label)
  let rows := visible.zipIdx.map fun (item, index) =>
    [button (label item) s!"cb:sel_recent:{page}:{index}"]
  newPanel (.recent page) text
    (rows ++ navigation page pages (fun value => s!"cb:recent:{value}") ++ [homeButton])

def renderProviders (purpose : ModelPurpose) (providers : List String)
    (page totalPages : UInt64) : TelegramPanel :=
  let pages := max totalPages.toNat 1
  let page := min page.toNat (pages - 1)
  let start := page * pageSize
  let visible := (providers.drop start).take pageSize
  let text := s!"首页 > {purpose.displayName}模型 > 厂商选择\n\n请选择厂商（第 {page + 1} / {pages} 页）：" ++
    (if providers.isEmpty then "\n\n当前没有可用模型厂商。请刷新后重试。" else "") ++
    numbered start (visible.map redactLabel)
  let items := visible.map fun provider =>
    button (redactLabel provider) (providerModelsCallback purpose provider page)
  newPanel (.providers purpose page) text
    (rowsOfTwo items ++ [[button "重置模型" s!"cb:rst_mdl:{purpose.shortName}"]] ++
      navigation page pages (fun value => s!"cb:prov:{purpose.shortName}:{value}") ++ [homeButton])

def renderProviderModels (purpose : ModelPurpose) (providerKey : String)
    (models : List StModelSummary) (currentOverride : Option String) (page totalPages : UInt64) :
    TelegramPanel :=
  let pages := max totalPages.toNat 1
  let page := min page.toNat (pages - 1)
  let start := page * pageSize
  let visible := (models.drop start).take pageSize
  let marked (model : StModelSummary) :=
    redactLabel model.id ++ if currentOverride = some model.id then " [当前]" else ""
  let text := s!"首页 > {purpose.displayName}模型 > " ++ redactLabel providerKey ++
    s!"\n\n请选择模型（第 {page + 1} / {pages} 页）：" ++
    (if models.isEmpty then "\n\n该厂商当前没有可用模型。请返回厂商列表。" else "") ++
    numbered start (visible.map marked)
  let items := visible.map fun model =>
    [button (marked model) (selectModelCallback purpose providerKey model.id)]
  newPanel (.providerModels purpose providerKey page) text
    (items ++ navigation page pages (providerModelsCallback purpose providerKey) ++
      [[button "返回厂商" s!"cb:prov:{purpose.shortName}:0"], homeButton])

/-! ## The places of panels -/

structure PanelSlot where
  panelId : String
  accountId : String
  numericBotId : ℤ
  chatId : ℤ
  messageId : ℤ
  kind : PanelKind
  revision : UInt64
  active : Bool
  expiresAtUnix : ℤ
  deriving DecidableEq, Repr

/-- What is done to show a panel. -/
inductive PanelEffect
  | create (panelId : String) (chatId : ℤ) (panel : TelegramPanel)
  | replace (slot : PanelSlot) (expectedRevision : UInt64) (panel : TelegramPanel)
  deriving DecidableEq, Repr

/-- `saturating_add(1)`. -/
def nextRevision (revision : UInt64) : UInt64 :=
  if revision.toNat + 1 < 2 ^ 64 then revision + 1 else revision

def planEffect (now : ℤ) (currentSlot : Option PanelSlot) (nextPanel : TelegramPanel)
    (panelId accountId : String) (numericBotId chatId ttlSecs : ℤ) : PanelEffect × PanelSlot :=
  let expiresAtUnix := now + max ttlSecs 0
  match currentSlot.filter (·.active) with
  | some slot =>
    (.replace slot slot.revision { nextPanel with revision := nextRevision slot.revision },
      { slot with kind := nextPanel.kind, revision := nextRevision slot.revision, active := true
                  expiresAtUnix })
  | none =>
    (.create panelId chatId nextPanel,
      { panelId, accountId, numericBotId, chatId, messageId := 0, kind := nextPanel.kind
        revision := 0, active := true, expiresAtUnix })

theorem toNat_nextRevision {revision : UInt64} (h : revision.toNat < 2 ^ 63 - 1) :
    (nextRevision revision).toNat = revision.toNat + 1 := by
  rw [nextRevision, if_pos (by omega), UInt64.toNat_add]
  exact Nat.mod_eq_of_lt (by simp; omega)

/-- **A panel that is replaced has the next revision**, in the place of the panel before. -/
theorem planEffect_replace {now : ℤ} {currentSlot : Option PanelSlot}
    {nextPanel panel : TelegramPanel}
    {panelId accountId : String} {numericBotId chatId ttlSecs : ℤ} {slot nextSlot : PanelSlot}
    {expectedRevision : UInt64}
    (h : planEffect now currentSlot nextPanel panelId accountId numericBotId chatId ttlSecs =
      (.replace slot expectedRevision panel, nextSlot)) :
    currentSlot = some slot ∧ slot.active = true ∧ expectedRevision = slot.revision ∧
      nextSlot.revision = nextRevision slot.revision := by
  unfold planEffect at h
  cases hslot : currentSlot.filter (·.active) with
  | none => simp [hslot] at h
  | some current =>
    obtain ⟨hcurrent, hactive⟩ := Option.filter_eq_some_iff.mp hslot
    simp only [hslot, Prod.mk.injEq, PanelEffect.replace.injEq] at h
    obtain ⟨⟨rfl, hexpected, -⟩, rfl⟩ := h
    exact ⟨hcurrent, hactive, hexpected.symm, rfl⟩

end ImBridge
