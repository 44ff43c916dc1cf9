import ImBridge.Interleaving.Hoare
import ImBridge.Telegram.PanelStore

/-!
# Binding the buttons of panels

Before a panel is shown, the text of each of its buttons is read as an action, and a token is issued
for it that takes the place of the text. A button whose text cannot be read keeps it. The provider
keys and model ids in the texts come from the chat backend, and a colon in one of them is enough.

## Main definitions

* `HexEncoder`: the third-party encoder of tokens
* `CallbackStore.issue`, `bindPanelCallbacks`: tokens for the buttons of a panel
* `Replaced`: a button before and after that
* `providerActions`, `modelActions`: the actions with names on the panels of providers and models

## Main results

* `isOpaqueToken_token`: the tokens that are issued are opaque
* `callback_round_trip`: when actions are read back, and when all buttons of these panels are
  replaced by tokens
* `callback_colon`: a model whose id has a colon
-/

namespace ImBridge

open Interleaving Fallible Encoding CallbackAction

/-- Tasks on panels that may fail. -/
abbrev PanelTask (α : Type) := Fallible panelCalls AppError α

def callStore (c : PanelStoreCall) : PanelTask c.Result := ExceptT.mk (askPanel (.store c))

/-- The encoder of the `hex` crate: two hexadecimal digits for each byte. -/
structure HexEncoder where
  encode : Bytes → String
  length_encode : ∀ bytes, (encode bytes).toList.length = 2 * bytes.length
  isAsciiHexdigit_encode : ∀ bytes, ∀ c ∈ (encode bytes).toList, isAsciiHexdigit c = true

variable (hex : HexEncoder)

def CallbackStore.issue (binding : CallbackBinding) : PanelTask String := do
  let raw ← askPanel .randomBytes
  let token := "cb:" ++ hex.encode raw.val
  Fallible.ofExcept (validateOpaqueToken token)
  callStore (.insertToken token binding)
  return token

/-- The loop body of `bind_panel_callbacks`. -/
def bindButton (catalogRevision : Option String) (accountId userId botId : String)
    (numericBotId chatId : ℤ) (panelId : String) (messageId : ℤ) (panelRevision : UInt64)
    (button : InlineButton) : PanelTask InlineButton :=
  match decodeStoredAction button.callbackData with
  | .error _ => pure button
  | .ok action => do
    let now ← askPanel .unixTimestamp
    let actionNonce ← askPanel .newId
    let token ← CallbackStore.issue hex
      { accountId, internalBotId := botId, numericBotId, chatId, authorizedUserId := userId, panelId
        messageId, panelRevision, catalogRevision, expiresAtUnix := now + 600, action, actionNonce }
    return { button with callbackData := token }

def bindPanelCallbacks (panel : TelegramPanel) (accountId userId botId : String)
    (numericBotId chatId : ℤ) (panelId : String) (messageId : ℤ) (panelRevision : UInt64) :
    PanelTask TelegramPanel := do
  let keyboard ← panel.keyboard.mapM fun row => row.mapM (bindButton hex panel.catalogRevision
    accountId userId botId numericBotId chatId panelId messageId panelRevision)
  return { panel with keyboard }

/-! ## Tokens -/

theorem ascii_of_isAsciiHexdigit {c : Char} (h : isAsciiHexdigit c = true) : c.toNat < 128 := by
  simp only [isAsciiHexdigit, Bool.or_eq_true, Bool.and_eq_true, decide_eq_true_eq,
    Char.le_def, UInt32.le_iff_toNat_le] at h
  have hnat : c.toNat = c.val.toNat := rfl
  simp at h
  omega

/-- **The tokens that are issued are opaque.** -/
theorem isOpaqueToken_token {raw : Bytes} (h : raw.length = 16) :
    isOpaqueToken ("cb:" ++ hex.encode raw) = true := by
  have hlist : ("cb:" ++ hex.encode raw).toList = 'c' :: 'b' :: ':' :: (hex.encode raw).toList := by
    simp
  have hascii : ∀ c ∈ ("cb:" ++ hex.encode raw).toList, c.toNat < 128 := by
    rw [hlist]
    intro c hc
    simp only [List.mem_cons] at hc
    rcases hc with rfl | rfl | rfl | hc
    · decide
    · decide
    · decide
    · exact ascii_of_isAsciiHexdigit (hex.isAsciiHexdigit_encode raw c hc)
  have hlength : (hex.encode raw).toList.length = 32 := by
    rw [hex.length_encode, h]
  have hsize : ("cb:" ++ hex.encode raw).utf8ByteSize = 35 := by
    rw [utf8ByteSize_of_ascii hascii, hlist]
    simp [hlength]
  have hstart : startsWith "cb:" ("cb:" ++ hex.encode raw) = true := by
    rw [startsWith, hlist]
    simp
  simp only [isOpaqueToken, hsize, opaqueCallbackDataBytes, hstart, beq_self_eq_true,
    Bool.true_and, Bool.and_true, Bool.and_eq_true, List.all_eq_true, decide_eq_true_eq]
  refine ⟨hascii, fun c hc => ?_⟩
  rw [hlist] at hc
  exact hex.isAsciiHexdigit_encode raw c hc

/-- The text of an action that is not replaced is not taken for a token. -/
theorem readable_of_isOpaqueToken {action : CallbackAction}
    (h : isOpaqueToken action.legacyData = true) : action.Readable := by
  simp only [isOpaqueToken, opaqueCallbackDataBytes, Bool.and_eq_true, beq_iff_eq] at h
  obtain ⟨⟨⟨hsize, -⟩, hstart⟩, hhex⟩ := h
  refine ⟨separable_of_count ?_, by rw [hsize]; decide⟩
  -- the only colon of a token is its third character
  obtain ⟨rest, hrest⟩ := List.isPrefixOf_iff_prefix.mp hstart
  rw [← hrest] at hhex ⊢
  have hzero : rest.count ':' = 0 := by
    rw [List.count_eq_zero]
    intro hcolon
    have hdigit := List.all_eq_true.mp hhex ':' (by simpa using hcolon)
    exact absurd hdigit (by decide)
  rw [List.count_append, hzero]
  decide

/-! ## Buttons that are replaced -/

/-- The button is replaced by one with a token if its text can be read, and kept otherwise. -/
structure Replaced (button bound : InlineButton) : Prop where
  label : bound.label = button.label
  token : ∀ action, decodeStoredAction button.callbackData = .ok action →
    isOpaqueToken bound.callbackData = true
  kept : (∀ action, decodeStoredAction button.callbackData ≠ .ok action) → bound = button

/-- The check of a new token never fails. -/
theorem run_issue (binding : CallbackBinding) :
    (CallbackStore.issue hex binding).run = askPanel .randomBytes >>= fun raw =>
      (callStore (.insertToken ("cb:" ++ hex.encode raw.val) binding) >>= fun _ =>
        pure ("cb:" ++ hex.encode raw.val) : PanelTask String).run := by
  rw [CallbackStore.issue, run_lift_bind]
  congr 1
  funext raw
  have hvalid : validateOpaqueToken ("cb:" ++ hex.encode raw.val) = .ok () := by
    simp [validateOpaqueToken, isOpaqueToken_token hex raw.2]
  rw [run_bind, run_ofExcept, hvalid]
  rfl

theorem ends_issue (binding : CallbackBinding) : (CallbackStore.issue hex binding).run.Ends
    (onResult (fun token => isOpaqueToken token = true) fun _ => True) := by
  rw [run_issue]
  intro raw reply
  cases reply with
  | ok a => exact isOpaqueToken_token hex raw.2
  | error e => trivial

section Bind

variable {catalogRevision : Option String} {accountId userId botId : String}
  {numericBotId chatId : ℤ} {panelId : String} {messageId : ℤ} {panelRevision : UInt64}

theorem ends_bindButton (button : InlineButton) :
    (bindButton hex catalogRevision accountId userId botId numericBotId chatId panelId messageId
      panelRevision button).run.Ends (onResult (Replaced button) fun _ => True) := by
  unfold bindButton
  split
  · rename_i e hdecode
    refine ⟨rfl, fun action haction => ?_, fun _ => rfl⟩
    rw [hdecode] at haction
    cases haction
  · rename_i action hdecode
    intro now actionNonce
    refine ends_bind (ends_issue hex _) fun token htoken => ?_
    exact ⟨rfl, fun _ _ => htoken, fun hnone => absurd hdecode (hnone action)⟩

/-- **Every button of a bound panel is replaced or kept.** -/
theorem ends_bindPanelCallbacks (panel : TelegramPanel) :
    (bindPanelCallbacks hex panel accountId userId botId numericBotId chatId panelId messageId
      panelRevision).run.Ends (onResult (fun bound =>
        List.Forall₂ Replaced panel.keyboard.flatten bound.keyboard.flatten) fun _ => True) := by
  refine ends_bind (ends_mapM (fun row => ends_mapM (ends_bindButton hex) row) panel.keyboard) ?_
  intro keyboard hkeyboard
  exact List.rel_flatten hkeyboard

/-- Binding a panel fails only if a token cannot be stored. -/
theorem hoare_bindPanelCallbacks {S : Type} {handler : (c : PanelCall) → S → c.Reply × S}
    (hstore : ∀ c s, ∃ a, (handler (.store c) s).1 = .ok a) (panel : TelegramPanel) :
    Hoare (σ := panelCalls) handler (fun _ => True)
      (bindPanelCallbacks hex panel accountId userId botId
      numericBotId chatId panelId messageId panelRevision).run
        fun r _ => onResult (fun _ => True) (fun _ => False) r := by
  have hissue : ∀ binding, Hoare (σ := panelCalls) handler (fun _ => True)
      (CallbackStore.issue hex binding).run fun r _ => onResult (fun _ => True)
      (fun _ => False) r := by
    intro binding
    rw [run_issue]
    refine Hoare.bind (M := fun _ _ => True) (hoare_perform fun _ _ => trivial) fun raw => ?_
    refine Hoare.tryBind (M := fun _ _ => True) (hoare_perform fun s _ => ?_) fun _ => ?_
    · obtain ⟨a, ha⟩ := hstore (.insertToken ("cb:" ++ hex.encode raw.val) binding) s
      rw [ha]
      trivial
    · exact hoare_ret fun _ _ => trivial
  have hbutton : ∀ button, Hoare (σ := panelCalls) handler (fun _ => True)
      (bindButton hex panel.catalogRevision accountId userId botId numericBotId chatId panelId
        messageId
        panelRevision button).run fun r _ => onResult (fun _ => True) (fun _ => False) r := by
    intro button
    unfold bindButton
    split
    · exact hoare_ret fun _ _ => trivial
    · refine Hoare.liftBind (M := fun _ _ => True) (fun _ _ => trivial) fun now => ?_
      refine Hoare.liftBind (M := fun _ _ => True) (fun _ _ => trivial) fun actionNonce => ?_
      refine Hoare.tryBind (M := fun _ _ => True) (hissue _) fun token => ?_
      exact hoare_ret fun _ _ => trivial
  refine Hoare.tryBind (M := fun _ _ => True)
    (hoare_mapM (fun row => hoare_mapM hbutton row) panel.keyboard) fun keyboard => ?_
  exact hoare_ret fun _ _ => trivial

end Bind

/-- A button for an action is replaced by one with a token if the action can be read back. -/
theorem Replaced.isOpaqueToken_iff {button bound : InlineButton} {action : CallbackAction}
    (h : Replaced button bound) (hdata : button.callbackData = action.legacyData) :
    isOpaqueToken bound.callbackData = true ↔ action.Readable := by
  constructor
  · intro htoken
    by_contra hnot
    have hkept := h.kept fun a ha => hnot (by
      rw [hdata] at ha
      exact (parseLegacyCallbackData_legacyData.mp ha).2)
    rw [hkept, hdata] at htoken
    exact hnot (readable_of_isOpaqueToken htoken)
  · intro hreadable
    refine h.token action ?_
    rw [hdata]
    exact parseLegacyCallbackData_legacyData.mpr ⟨rfl, hreadable⟩

/-- Every button of the panel has a token. -/
def AllOpaque (panel : TelegramPanel) : Prop :=
  ∀ button ∈ panel.keyboard.flatten, isOpaqueToken button.callbackData = true

/-- The buttons are those for the actions, in order. -/
def Shows (buttons : List InlineButton) (actions : List CallbackAction) : Prop :=
  buttons.map (·.callbackData) = actions.map (·.legacyData)

theorem forall_isOpaqueToken_iff {buttons bound : List InlineButton} {actions : List CallbackAction}
    (h : List.Forall₂ Replaced buttons bound) (hshows : Shows buttons actions) :
    (∀ button ∈ bound, isOpaqueToken button.callbackData = true) ↔
      ∀ action ∈ actions, action.Readable := by
  induction h generalizing actions with
  | nil =>
    have hnil : actions = [] := by simpa [Shows] using hshows
    simp [hnil]
  | cons hb _ ih =>
    cases actions with
    | nil => simp [Shows] at hshows
    | cons action actions =>
      obtain ⟨hdata, hrest⟩ := List.cons.inj hshows
      rw [List.forall_mem_cons, List.forall_mem_cons, hb.isOpaqueToken_iff hdata, ih hrest]

/-! ## The actions of keyboards -/

theorem Shows.append {buttons buttons' : List InlineButton} {actions actions' : List CallbackAction}
    (h : Shows buttons actions) (h' : Shows buttons' actions') :
    Shows (buttons ++ buttons') (actions ++ actions') := by
  simp only [Shows, List.map_append] at *
  rw [h, h']

theorem shows_button (label : String) (action : CallbackAction) {data : String}
    (h : data = action.legacyData) : Shows [button label data] [action] := by
  subst h
  simp [Shows, button, opaqueCallback_legacyData]

theorem shows_map {α : Type} (items : List α) (label : α → String) (action : α → CallbackAction) :
    Shows (items.map fun item => button (label item) (action item).toCallbackData)
      (items.map action) := by
  simp only [Shows, List.map_map]
  refine List.map_congr_left fun item _ => ?_
  exact opaqueCallback_legacyData (action item)

/-- The actions of the buttons to other pages. -/
def pageActions (page totalPages : ℕ) (action : ℕ → CallbackAction) : List CallbackAction :=
  (if 0 < page then [action (page - 1)] else []) ++
    if page + 1 < totalPages then [action (page + 1)] else []

theorem shows_pageButtons {page totalPages bound : ℕ} {token : ℕ → String}
    {action : ℕ → CallbackAction} (hpage : page < bound) (htotal : totalPages ≤ bound)
    (h : ∀ value < bound, token value = (action value).legacyData) :
    Shows (pageButtons page totalPages token) (pageActions page totalPages action) := by
  unfold pageButtons pageActions
  apply Shows.append
  · split
    · exact shows_button _ _ (h _ (by omega))
    · rfl
  · split
    · exact shows_button _ _ (h _ (by omega))
    · rfl

/-! ## The panels of providers and models -/

theorem legacyData_providers (purpose : ModelPurpose) {value : ℕ} (h : value < 2 ^ 64) :
    s!"cb:prov:{purpose.shortName}:{value}" =
      (providers purpose (.ofNat value)).legacyData := by
  rw [legacyData, parts, tag, fields,
    toNat_ofNat_of_lt h]
  cases purpose <;> rfl

/-- The page that is shown. -/
def shownPage (page totalPages : UInt64) : ℕ := min page.toNat (max totalPages.toNat 1 - 1)

theorem shownPage_lt (page totalPages : UInt64) : shownPage page totalPages < 2 ^ 64 := by
  have hpage := page.toNat_lt
  unfold shownPage
  omega

/-- The actions with names on a panel of providers. -/
def providerActions (purpose : ModelPurpose) (providers : List String) (page totalPages : UInt64) :
    List CallbackAction :=
  (onPage providers (shownPage page totalPages)).map fun provider =>
    .providerModels purpose provider (.ofNat (shownPage page totalPages))

/-- The actions with names on a panel of models. -/
def modelActions (purpose : ModelPurpose) (providerKey : String) (models : List StModelSummary)
    (page totalPages : UInt64) : List CallbackAction :=
  ((onPage models (shownPage page totalPages)).map fun model =>
    .selectModelById purpose providerKey model.id) ++
    pageActions (shownPage page totalPages) (max totalPages.toNat 1) fun value =>
      .providerModels purpose providerKey (.ofNat value)

theorem shows_renderProviders (purpose : ModelPurpose) (providers : List String)
    (page totalPages : UInt64) :
    Shows (renderProviders purpose providers page totalPages).keyboard.flatten
      (providerActions purpose providers page totalPages ++ ([.resetModel purpose] ++
        (pageActions (shownPage page totalPages) (max totalPages.toNat 1) (fun value =>
          .providers purpose (.ofNat value)) ++ [.home]))) := by
  have htotal := totalPages.toNat_lt
  have hkeyboard : (renderProviders purpose providers page totalPages).keyboard.flatten =
      ((onPage providers (shownPage page totalPages)).map fun provider =>
        button (redactLabel provider)
          (providerModelsCallback purpose provider (shownPage page totalPages))) ++
        ([button "重置模型" s!"cb:rst_mdl:{purpose.shortName}"] ++
          (pageButtons (shownPage page totalPages) (max totalPages.toNat 1) (fun value =>
            s!"cb:prov:{purpose.shortName}:{value}") ++ homeButton)) := by
    simp only [renderProviders, newPanel, List.flatten_append, flatten_rowsOfTwo,
      flatten_navigation, List.flatten_cons, List.flatten_nil, List.append_nil, List.append_assoc]
    rfl
  rw [hkeyboard]
  apply Shows.append (shows_map _ _ _)
  apply Shows.append
  · exact shows_button _ _ (by cases purpose <;> rfl)
  · apply Shows.append
    · exact shows_pageButtons (shownPage_lt page totalPages) (by omega) fun value hvalue =>
        legacyData_providers purpose hvalue
    · exact shows_button _ _ rfl

theorem shows_renderProviderModels (purpose : ModelPurpose) (providerKey : String)
    (models : List StModelSummary) (currentOverride : Option String) (page totalPages : UInt64) :
    Shows (renderProviderModels purpose providerKey models currentOverride page
      totalPages).keyboard.flatten
      (modelActions purpose providerKey models page totalPages ++
        ([.providers purpose 0] ++ [.home])) := by
  have htotal := totalPages.toNat_lt
  simp only [renderProviderModels, newPanel, List.flatten_append, flatten_navigation,
    List.flatten_cons, List.flatten_nil, List.append_nil, flatten_map_single]
  apply Shows.append
  · apply Shows.append (shows_map _ _ _)
    exact shows_pageButtons (shownPage_lt page totalPages) (by omega) fun _ _ => rfl
  · apply Shows.append
    · exact shows_button _ _ (by cases purpose <;> rfl)
    · exact shows_button _ _ rfl

theorem forall_readable_pageActions (purpose : ModelPurpose) (page totalPages : ℕ) :
    ∀ action ∈ pageActions page totalPages (fun value => .providers purpose (.ofNat value)),
      action.Readable := by
  intro action haction
  unfold pageActions at haction
  rw [List.mem_append] at haction
  rcases haction with h | h
  · split at h
    · rw [List.mem_singleton.mp h]
      exact readable_of_names rfl
    · cases h
  · split at h
    · rw [List.mem_singleton.mp h]
      exact readable_of_names rfl
    · cases h

/-- All buttons of a bound panel have tokens if the actions with names can be read back. -/
theorem ends_shown {accountId userId botId : String} {numericBotId chatId : ℤ} {panelId : String}
    {messageId : ℤ} {panelRevision : UInt64} {panel : TelegramPanel}
    {named others : List CallbackAction} (hshows : Shows panel.keyboard.flatten (named ++ others))
    (hothers : ∀ action ∈ others, action.Readable) :
    (bindPanelCallbacks hex panel accountId userId botId numericBotId chatId panelId messageId
      panelRevision).run.Ends (onResult (fun bound =>
        (AllOpaque bound ↔ ∀ action ∈ named, action.Readable)) fun _ => True) := by
  refine (ends_bindPanelCallbacks hex _).imp fun r hr => onResult_mono (fun bound hbound => ?_) hr
  rw [AllOpaque, forall_isOpaqueToken_iff hbound hshows, List.forall_mem_append]
  exact and_iff_left hothers

/-- **When actions are read back and buttons are replaced**: an action whose text is short enough is
read back if there is no colon in its names, and all buttons of a bound panel of providers or models
have tokens if the actions on it that have names can be read back. Binding fails only if a token
cannot be stored. -/
theorem callback_round_trip (accountId userId botId : String) (numericBotId chatId : ℤ)
    (panelId : String) (messageId : ℤ) (panelRevision : UInt64) :
    (∀ action : CallbackAction, action.toCallbackData.utf8ByteSize ≤ 4096 →
      (parseCallbackData action.toCallbackData = .ok action ↔ action.Separable)) ∧
    (∀ purpose providers page totalPages,
      (bindPanelCallbacks hex (renderProviders purpose providers page totalPages) accountId userId
        botId numericBotId chatId panelId messageId panelRevision).run.Ends (onResult (fun bound =>
          (AllOpaque bound ↔ ∀ action ∈ providerActions purpose providers page totalPages,
            action.Readable)) fun _ => True)) ∧
    (∀ purpose providerKey models currentOverride page totalPages,
      (bindPanelCallbacks hex (renderProviderModels purpose providerKey models currentOverride page
        totalPages) accountId userId botId numericBotId chatId panelId messageId
          panelRevision).run.Ends (onResult (fun bound =>
            (AllOpaque bound ↔ ∀ action ∈ modelActions purpose providerKey models page totalPages,
              action.Readable)) fun _ => True)) ∧
    ∀ (S : Type) (handler : (c : PanelCall) → S → c.Reply × S),
      (∀ c s, ∃ a, (handler (.store c) s).1 = .ok a) →
        ∀ panel s, ∃ bound, (Program.interpret (σ := panelCalls) handler
          (bindPanelCallbacks hex panel
          accountId userId botId numericBotId chatId panelId messageId panelRevision).run s).1 =
            .ok bound := by
  refine ⟨fun action hsize => ?_,
    fun purpose providers page totalPages => ends_shown hex (shows_renderProviders ..) ?_,
    fun purpose providerKey models _ page totalPages =>
      ends_shown hex (shows_renderProviderModels ..) ?_, ?_⟩
  · constructor
    · intro hparse
      exact (parseLegacyCallbackData_legacyData.mp hparse).2.1
    · intro hseparable
      exact parseLegacyCallbackData_legacyData.mpr ⟨rfl, hseparable, hsize⟩
  · -- the buttons besides the providers have no names in them
    simp only [List.forall_mem_append, List.forall_mem_singleton]
    exact ⟨readable_of_names rfl, forall_readable_pageActions purpose _ _, readable_of_names rfl⟩
  · simp only [List.forall_mem_append, List.forall_mem_singleton]
    exact ⟨readable_of_names rfl, readable_of_names rfl⟩
  · intro S handler hstore panel s
    have hok : ∀ r : AppResult TelegramPanel, onResult (fun _ => True) (fun _ => False) r →
        ∃ bound, r = .ok bound := by
      rintro (e | bound) h
      · exact h.elim
      · exact ⟨bound, rfl⟩
    exact hok _ (hoare_bindPanelCallbacks hex hstore panel s trivial)

/-! ## A model id with a colon -/

theorem isAsciiHexdigit_digitChar : ∀ n < 16, isAsciiHexdigit (Nat.digitChar n) = true := by
  decide

/-- Lower-case digits. -/
def lowerHex : HexEncoder where
  encode bytes := String.ofList (bytes.flatMap fun b =>
    [Nat.digitChar (b.toNat / 16), Nat.digitChar (b.toNat % 16)])
  length_encode bytes := by
    rw [String.toList_ofList, List.length_flatMap]
    simp [Nat.mul_comm]
  isAsciiHexdigit_encode bytes c h := by
    rw [String.toList_ofList, List.mem_flatMap] at h
    obtain ⟨b, -, hb⟩ := h
    have hlt := b.toNat_lt
    simp only [List.mem_cons, List.not_mem_nil, or_false] at hb
    rcases hb with rfl | rfl
    · exact isAsciiHexdigit_digitChar _ (by omega)
    · exact isAsciiHexdigit_digitChar _ (by omega)

/-- Every token is stored. -/
def acceptAll : (c : PanelCall) → Unit → c.Reply × Unit
  | .store (.claimPanelRevision ..), s => (.ok none, s)
  | .store (.consume ..), s => (.ok (.home, ""), s)
  | .store (.saveSlot _), s => (.ok (), s)
  | .store (.markPanelRevisionSending ..), s => (.ok (), s)
  | .store (.markPanelRevisionSent ..), s => (.ok (), s)
  | .store (.markPanelRevisionFailed ..), s => (.ok (), s)
  | .store (.completePanelReplace ..), s => (.ok (), s)
  | .store (.insertToken ..), s => (.ok (), s)
  | .store (.claimActionEffect _), s => (.ok (), s)
  | .store (.completeActionEffect _), s => (.ok (), s)
  | .store (.failActionEffect ..), s => (.ok (), s)
  | .unixTimestamp, s => (0, s)
  | .newId, s => ("id", s)
  | .randomBytes, s => (⟨List.replicate 16 0, rfl⟩, s)

/-- The model of a provider that charges nothing for it. -/
def freeModel : StModelSummary := ⟨"meta-llama/llama-3:free", some "openrouter"⟩

/-- **A model whose id has a colon**: the text of its button cannot be read, and stays on the
panel. -/
theorem callback_colon :
    (selectModelById .chat "openrouter" freeModel.id).toCallbackData.utf8ByteSize ≤
      4096 ∧
    (match parseCallbackData
        (selectModelById .chat "openrouter" freeModel.id).toCallbackData with
      | .ok _ => true
      | .error _ => false) = false ∧
    (match (Program.interpret (σ := panelCalls) acceptAll (bindPanelCallbacks lowerHex
        (renderProviderModels .chat "openrouter" [freeModel] none 0 1) "alice" "11" "bot" 7 5
          "panel-1" 3 0).run ()).1 with
      | .ok bound => bound.keyboard.flatten.map fun button => isOpaqueToken button.callbackData
      | .error _ => []) = [false, true, true] := by
  decide +kernel

end ImBridge
