import ImBridge.Bridge.Errors
import ImBridge.Encoding.Frame
import ImBridge.Encoding.Separated
import ImBridge.Encoding.Utf8
import Mathlib.Algebra.Order.BigOperators.Group.List
import Mathlib.Data.Nat.Digits.Defs

/-!
# Callback data

What the button of a panel stands for is written as a text of parts that are joined by colons, and
read back by splitting the text at every colon and counting the parts. Model ids and provider keys
are written as they are, so an action is read back exactly if there is no colon in them.

## Main definitions

* `ModelPurpose`, `CallbackAction`: what the buttons of panels do
* `CallbackAction.legacyData`: actions as texts
* `parseLegacyCallbackData`, `opaqueCallback`: texts as actions
* `CallbackAction.Separable`, `CallbackAction.Readable`: there is no colon in the names of an
  action, and its text is not too long

## Main results

* `parseLegacyCallbackData_legacyData`: when an action is read back
-/

namespace ImBridge

open Encoding

inductive ModelPurpose
  | chat
  | compression
  deriving DecidableEq, Repr

namespace ModelPurpose

def shortName : ModelPurpose → String
  | chat => "chat"
  | compression => "comp"

def displayName : ModelPurpose → String
  | chat => "聊天"
  | compression => "压缩"

end ModelPurpose

/-- Numbers of pages and places are machine words. -/
inductive CallbackAction
  | home
  | help
  | settings
  | status
  | now
  | characters (page : UInt64)
  | selectCharacter (page index : UInt64)
  | history (page : UInt64)
  | selectHistory (page index : UInt64)
  | recent (page : UInt64)
  | selectRecent (page index : UInt64)
  | providers (purpose : ModelPurpose) (page : UInt64)
  | providerModels (purpose : ModelPurpose) (providerKey : String) (page : UInt64)
  | selectModel (purpose : ModelPurpose) (providerKey : String) (modelIndex : UInt64)
  | selectModelById (purpose : ModelPurpose) (providerKey modelId : String)
  | resetModel (purpose : ModelPurpose)
  deriving DecidableEq, Repr

/-! ## Actions as texts -/

def purposeToken : ModelPurpose → String
  | .chat => "chat"
  | .compression => "comp"

namespace CallbackAction

/-- The word for an action. -/
def tag : CallbackAction → String
  | home => "home"
  | help => "help"
  | settings => "settings"
  | status => "status"
  | now => "now"
  | characters _ => "chars"
  | selectCharacter .. => "sel_char"
  | history _ => "hist"
  | selectHistory .. => "sel_hist"
  | recent _ => "recent"
  | selectRecent .. => "sel_recent"
  | providers .. => "prov"
  | providerModels .. => "p_mdl"
  | selectModel .. => "sel_mdl"
  | selectModelById .. => "sel_mdl_id"
  | resetModel _ => "rst_mdl"

/-- The parts of the text of an action after that word. -/
def fields : CallbackAction → List String
  | home | help | settings | status | now => []
  | characters page | history page | recent page => [toString page.toNat]
  | selectCharacter page index | selectHistory page index | selectRecent page index =>
    [toString page.toNat, toString index.toNat]
  | providers purpose page => [purposeToken purpose, toString page.toNat]
  | providerModels purpose providerKey page =>
    [purposeToken purpose, providerKey, toString page.toNat]
  | selectModel purpose providerKey modelIndex =>
    [purposeToken purpose, providerKey, toString modelIndex.toNat]
  | selectModelById purpose providerKey modelId => [purposeToken purpose, providerKey, modelId]
  | resetModel purpose => [purposeToken purpose]

/-- The parts of the text of an action. -/
def parts (self : CallbackAction) : List String := "cb" :: self.tag :: self.fields

def legacyData (self : CallbackAction) : String := ":".intercalate self.parts

def toCallbackData (self : CallbackAction) : String := self.legacyData

/-- The limit on the length of callback data, in bytes. -/
def maxTemplateBytes : ℕ := 4096

end CallbackAction

/-! ## Texts as actions -/

/-- A number of the machine, with or without a plus sign. -/
def parseUsize (raw : String) : AppResult UInt64 :=
  let digits := match raw.toList with
    | '+' :: digits => digits
    | digits => digits
  if digits ≠ [] ∧ digits.all Char.isDigit ∧ Nat.ofDigitChars 10 digits 0 < 2 ^ 64 then
    .ok (UInt64.ofNat (Nat.ofDigitChars 10 digits 0))
  else .error (.badRequest "TELEGRAM_CALLBACK_INVALID" "callback 参数无效")

def parsePurpose (raw : String) : AppResult ModelPurpose :=
  if raw = "chat" then .ok .chat
  else if raw = "comp" ∨ raw = "compression" then .ok .compression
  else .error (.badRequest "TELEGRAM_CALLBACK_INVALID" "callback 模型用途无效")

/-- The action of the parts after the first one. -/
def parseParts : List String → AppResult CallbackAction
  | ["home"] => .ok .home
  | ["help"] => .ok .help
  | ["settings"] => .ok .settings
  | ["status"] => .ok .status
  | ["now"] => .ok .now
  | ["chars", page] => do return .characters (← parseUsize page)
  | ["sel_char", page, index] => do
    return .selectCharacter (← parseUsize page) (← parseUsize index)
  | ["hist", page] => do return .history (← parseUsize page)
  | ["sel_hist", page, index] => do return .selectHistory (← parseUsize page) (← parseUsize index)
  | ["recent", page] => do return .recent (← parseUsize page)
  | ["sel_recent", page, index] => do
    return .selectRecent (← parseUsize page) (← parseUsize index)
  | ["prov", purpose, page] => do return .providers (← parsePurpose purpose) (← parseUsize page)
  | ["p_mdl", purpose, providerKey, page] => do
    return .providerModels (← parsePurpose purpose) providerKey (← parseUsize page)
  | ["sel_mdl", purpose, providerKey, modelIndex] => do
    return .selectModel (← parsePurpose purpose) providerKey (← parseUsize modelIndex)
  | ["sel_mdl_id", purpose, providerKey, modelId] => do
    return .selectModelById (← parsePurpose purpose) providerKey modelId
  | ["rst_mdl", purpose] => do return .resetModel (← parsePurpose purpose)
  | _ => .error (.badRequest "TELEGRAM_CALLBACK_INVALID" "未知或格式错误的 callback")

def parseLegacyCallbackData (data : String) : AppResult CallbackAction :=
  if data.utf8ByteSize > CallbackAction.maxTemplateBytes then
    .error (.badRequest "TELEGRAM_CALLBACK_TOO_LONG" "Telegram callback_data 超过 64 字节")
  else
    match (data.toList.splitOn ':').map String.ofList with
    | "cb" :: parts => parseParts parts
    | _ => .error (.badRequest "TELEGRAM_CALLBACK_INVALID" "callback 前缀无效")

def parseCallbackData (data : String) : AppResult CallbackAction := parseLegacyCallbackData data

def decodeStoredAction (value : String) : AppResult CallbackAction := parseLegacyCallbackData value

def opaqueCallback (data : String) : String :=
  match parseLegacyCallbackData data with
  | .ok action => action.toCallbackData
  | .error _ => data

/-! ## Reading an action back -/

theorem parseUsize_toString (n : UInt64) : parseUsize (toString n.toNat) = .ok n := by
  have hdigits : (toString n.toNat).toList = Nat.toDigits 10 n.toNat := by simp
  have hall : ∀ c ∈ Nat.toDigits 10 n.toNat, c.isDigit = true := fun c hc =>
    Nat.isDigit_of_mem_toDigits (by omega) (by omega) hc
  have hne : Nat.toDigits 10 n.toNat ≠ [] := Nat.toDigits_ne_nil
  -- a number is written without a sign
  have hsign : (match Nat.toDigits 10 n.toNat with
      | '+' :: digits => digits
      | digits => digits) = Nat.toDigits 10 n.toNat := by
    split
    · rename_i digits hplus
      exact absurd (hall '+' (by simp [hplus])) (by decide)
    · rfl
  simp only [parseUsize, hdigits, hsign, Nat.ofDigitChars_ten_toDigits]
  rw [if_pos ⟨hne, by simpa using hall, n.toNat_lt⟩]
  simp

variable (purpose : ModelPurpose)

@[simp] theorem parsePurpose_purposeToken :
    parsePurpose (purposeToken purpose) = .ok purpose := by
  cases purpose <;> rfl

variable {self : CallbackAction}

namespace CallbackAction

/-- The names in an action, which come from the catalog of models. -/
def names : CallbackAction → List String
  | providerModels _ providerKey _ => [providerKey]
  | selectModel _ providerKey _ => [providerKey]
  | selectModelById _ providerKey modelId => [providerKey, modelId]
  | _ => []

/-- There is no colon in the names of the action. -/
def Separable (self : CallbackAction) : Prop := ∀ name ∈ self.names, ':' ∉ name.toList

instance (self : CallbackAction) : Decidable self.Separable :=
  inferInstanceAs (Decidable (∀ name ∈ self.names, ':' ∉ name.toList))

/-- An action is read from its parts. -/
theorem parseParts_parts :
    parseParts (self.tag :: self.fields) = .ok self := by
  cases self <;>
    simp only [tag, fields, parseParts, parseUsize_toString, parsePurpose_purposeToken] <;> rfl

theorem not_colon_toString (n : ℕ) : ':' ∉ (toString n).toList := by
  intro hmem
  rw [show (toString n).toList = Nat.toDigits 10 n by simp] at hmem
  have hdigit := Nat.isDigit_of_mem_toDigits (by omega) (by omega) hmem
  simp at hdigit

theorem not_colon_purposeToken : ':' ∉ (purposeToken purpose).toList := by
  cases purpose <;> decide

theorem toList_legacyData :
    self.legacyData.toList = List.intercalate [':'] (self.parts.map String.toList) := by
  rw [legacyData, String.toList_intercalate]
  rfl

theorem not_colon_tag : ':' ∉ self.tag.toList := by
  cases self <;> simp only [tag] <;> decide

/-- Besides the names, the parts of an action are purposes and numbers. -/
theorem not_colon_fields (h : self.Separable) : ∀ part ∈ self.fields, ':' ∉ part.toList := by
  have hnumber := not_colon_toString
  have hpurpose := not_colon_purposeToken
  cases self <;> simp_all [Separable, names, fields]

/-- The parts of the text of a separable action are those of the action. -/
theorem splitOn_legacyData (h : self.Separable) :
    (self.legacyData.toList.splitOn ':').map String.ofList = self.parts := by
  have hfree : ∀ part ∈ self.parts, ':' ∉ part.toList := by
    intro part hpart
    simp only [parts, List.mem_cons] at hpart
    rcases hpart with rfl | rfl | hpart
    · decide
    · exact self.not_colon_tag
    · exact not_colon_fields h part hpart
  rw [toList_legacyData, List.splitOn_intercalate ':' (by simpa using hfree) (by simp [parts])]
  simp

/-- No action has more than five parts. -/
theorem length_le_of_parseParts {parts : List String} (h : parseParts parts = .ok self) :
    parts.length ≤ 4 := by
  unfold parseParts at h
  split at h
  all_goals first | (cases h; done) | simp

/-- An action with a name has five parts, and its text has more if there is a colon in the name. -/
theorem separable_of_count (h : self.legacyData.toList.count ':' ≤ 4) : self.Separable := by
  intro name hname hcolon
  have hfields : self.fields.length = 3 ∧ name ∈ self.fields := by
    cases self <;> simp_all [names, fields]
  have hcount : 1 ≤ ((self.parts.map String.toList).map (List.count ':')).sum := by
    have hmem : name.toList.count ':' ∈ (self.parts.map String.toList).map (List.count ':') := by
      refine List.mem_map_of_mem (List.mem_map_of_mem ?_)
      simp [parts, hfields.2]
    have hpos := List.count_pos_iff.mpr hcolon
    have hle := List.single_le_sum (fun _ _ => Nat.zero_le _) _ hmem
    exact Nat.le_trans hpos hle
  rw [toList_legacyData, parts, List.map_cons, count_intercalate] at h
  rw [parts, List.map_cons] at hcount
  simp only [List.length_map, List.length_cons, hfields.1] at h
  omega

end CallbackAction

/-- The text of the action is short enough, and there is no colon in its names. -/
def CallbackAction.Readable (self : CallbackAction) : Prop :=
  self.Separable ∧ self.legacyData.utf8ByteSize ≤ CallbackAction.maxTemplateBytes

instance (self : CallbackAction) : Decidable self.Readable := inferInstanceAs (Decidable (_ ∧ _))

theorem length_toString_toNat (n : UInt64) : (toString n.toNat).toList.length ≤ 20 := by
  rw [show (toString n.toNat).toList = Nat.toDigits 10 n.toNat by simp]
  have hlt := n.toNat_lt
  exact Nat.toDigits_length 10 n.toNat 20 (by omega) (by omega)

theorem length_purposeToken : (purposeToken purpose).toList.length = 4 := by
  cases purpose <;> rfl

theorem CallbackAction.length_tag_le : self.tag.toList.length ≤ 10 := by
  cases self <;> simp only [tag] <;> decide

/-- Besides the names, the parts of an action are short. -/
theorem CallbackAction.length_fields_le (h : self.names = []) :
    self.fields.length ≤ 2 ∧ ∀ part ∈ self.fields, part.toList.length ≤ 20 := by
  have hnumber := length_toString_toNat
  have hpurpose : ∀ purpose, (purposeToken purpose).toList.length ≤ 20 := by
    intro purpose
    rw [length_purposeToken]
    omega
  cases self <;> simp [names] at h <;> simp only [fields] <;> simp_all

/-- The actions without names can be read back. -/
theorem CallbackAction.readable_of_names (h : self.names = []) : self.Readable := by
  refine ⟨fun name hname => absurd (h ▸ hname) List.not_mem_nil, ?_⟩
  obtain ⟨hcount, hparts⟩ := length_fields_le h
  have htag := self.length_tag_le
  have hlength : self.legacyData.toList.length ≤ 100 := by
    rw [toList_legacyData, parts]
    match hfields : self.fields with
    | [] => simp; omega
    | [a] =>
      have ha := hparts a (by simp [hfields])
      simp
      omega
    | [a, b] =>
      have ha := hparts a (by simp [hfields])
      have hb := hparts b (by simp [hfields])
      simp
      omega
    | a :: b :: c :: rest =>
      rw [hfields] at hcount
      simp at hcount
  have hsize := utf8ByteSize_le self.legacyData
  unfold maxTemplateBytes
  omega

/-- **When an action is read back**: if its text is short enough and there is no colon in its names;
otherwise nothing is read. -/
theorem parseLegacyCallbackData_legacyData {action a : CallbackAction} :
    parseLegacyCallbackData action.legacyData = .ok a ↔ a = action ∧ action.Readable := by
  unfold parseLegacyCallbackData
  constructor
  · intro h
    split at h
    · cases h
    · rename_i hsize
      split at h
      · rename_i parts hparts
        -- an action has at most five parts, so no name was split
        have hlength := congrArg List.length hparts
        have hle := CallbackAction.length_le_of_parseParts h
        rw [List.length_map, length_splitOn, List.length_cons] at hlength
        have hseparable : action.Separable := CallbackAction.separable_of_count (by omega)
        rw [CallbackAction.splitOn_legacyData hseparable, CallbackAction.parts] at hparts
        have htail := (List.cons.inj hparts).2
        rw [← htail, action.parseParts_parts] at h
        exact ⟨(Except.ok.inj h).symm, hseparable, by omega⟩
      · cases h
  · rintro ⟨rfl, hseparable, hsize⟩
    rw [if_neg (by omega), CallbackAction.splitOn_legacyData hseparable]
    exact a.parseParts_parts

/-- The data of a button for an action is the text of the action. -/
theorem opaqueCallback_legacyData (action : CallbackAction) :
    opaqueCallback action.legacyData = action.legacyData := by
  unfold opaqueCallback
  split
  · rename_i a ha
    rw [(parseLegacyCallbackData_legacyData.mp ha).1]
    rfl
  · rfl

end ImBridge
