import ImBridge.System

/-!
# The error mapper

Every failure of a request to the chat backend or to the Connector becomes an `StBridgeError` here.
The caller says what it knows: the stage, the operation, what the failure would mean for a write
(`StErrorFacts.commitState`), and the failure itself. For an HTTP answer the body may know better:
a JSON body with an `error` object whose code is one of the bridge's own overrides the stage, the
`retryable` flag and the commit state.

## Main definitions

* `StErrorFacts`, `StFailureFacts`: what is known of a failure
* `mapStError`: the error made of it
* `upstreamError`: the `error` object of a body, if the mapper recognises it
* `statedCommitState`: what a recognised `error` object says about the write

## Main results

* `commitState_mapStError_of_not_http`: without an answer the caller's commit state is kept
* `commitState_mapHttp`: with an answer, at the commit stage, the commit state is the stated one or
  the caller's
-/

namespace ImBridge

inductive StFailureFacts
  | connect
  | timeout
  | http (status : ℕ) (contentType : Option String) (body : Option Bytes)
  | decodeInvalidPayload
  | decodeSettings
  | connectorUnavailable
  | connectorAuth
  | connectorVersion
  | connectorMediaType
  | control (code : StErrorCode)

structure StErrorFacts where
  stage : StErrorStage
  endpointClass : Option String
  operationId : Option String
  commitState : CommitState
  attempt : ℕ
  failure : StFailureFacts

def stWriteNotReadyMessage : String :=
  "ST backend 未接入，聊天功能已冻结，本次未写入 SillyTavern。"

def safeMessage : StErrorCode → String
  | .stConnectFailed => "无法连接 SillyTavern，本次没有写入聊天。"
  | .stRequestTimeout => "请求 SillyTavern 超时，本次没有写入聊天。"
  | .stCsrfFetchFailed => "无法获取 SillyTavern 会话凭证，本次没有写入聊天。"
  | .stCsrfMissing => "SillyTavern 会话缺少必要凭证，本次没有写入聊天。"
  | .stSessionRejected => "SillyTavern 拒绝了本次会话，本次没有写入聊天。"
  | .stCharacterListFailed => "无法读取 SillyTavern 角色列表，本次没有写入聊天。"
  | .stChatListFailed => "无法读取 SillyTavern 聊天列表，本次没有写入聊天。"
  | .stChatNotFound => "找不到对应的 SillyTavern 聊天，本次没有写入。"
  | .stChatPayloadInvalid => "SillyTavern 返回的聊天内容无法解析，本次没有写入聊天。"
  | .stSettingsInvalid => "SillyTavern 设置无效或无法解析，本次没有写入聊天。"
  | .stGenerateRejected => "SillyTavern 拒绝了本次生成请求，内容没有写入聊天。"
  | .stGenerateRateLimited => "SillyTavern 生成请求过于频繁，本次内容没有写入聊天。"
  | .stGenerateUpstream5xx => "ST 的模型后端返回错误，本次内容没有写入聊天。"
  | .stGenerateIdleTimeout => "SillyTavern 生成长时间没有输出，本次内容没有写入聊天。"
  | .stGenerateHardTimeout => "SillyTavern 生成达到时间上限，本次内容没有写入聊天。"
  | .stGenerateStreamInvalid => "SillyTavern 生成流格式无效，本次内容没有写入聊天。"
  | .stGenerateEmpty => "SillyTavern 生成结束但没有文本，本次内容没有写入聊天。"
  | .stGenerateStateUnknown => "无法确认 SillyTavern 是否已生成，请先对账后再处理。"
  | .stConnectorUnavailable => "无法连接写入服务，本次没有写入聊天。"
  | .stConnectorAuthFailed => "写入服务鉴权失败，本次没有写入聊天。"
  | .stConnectorVersionMismatch => "写入服务版本不兼容，本次没有写入聊天。"
  | .stConnectorMediaTypeRejected => "写入请求格式被拒绝，本次没有写入聊天。"
  | .stWriteNotReady => stWriteNotReadyMessage
  | .stTestScopeRequired => "当前只能写入测试聊天，本次没有写入。"
  | .stPollerNotOwner => "当前运行实例不是该 Bot 的所有者，本次没有写入。"
  | .stPollerEpochMismatch => "当前运行实例持有过期所有权，本次没有写入。"
  | .stChatLocatorRejected => "聊天定位信息不合法，本次没有写入。"
  | .stChatIntegrityMissing => "聊天缺少完整性标记，本次没有写入。"
  | .stChatConflict => "生成期间该聊天已被更新，本次没有覆盖新内容。"
  | .stOperationIdReused => "操作标识被重复使用，本次没有写入。"
  | .stBackupFailed => "写入前备份失败，本次没有写入聊天。"
  | .stBackupQuotaExceeded => "备份空间不足，本次没有写入聊天。"
  | .stWriteVerifyFailed => "写入后校验失败，尚未确认聊天是否已更新。"
  | .stCommitPayloadTooLarge => "写入内容过大，本次没有写入聊天。"
  | .stCommitValidationFailed => "写入内容未通过校验，本次没有写入聊天。"
  | .stCommitFailed => "保存聊天失败，本次没有写入。"
  | .stCommitStateUnknown => "无法确认聊天是否已保存，请先对账后再处理。"
  | .stDeliveryFailed => "ST 内容已写入；Telegram 投递失败。"

def defaultRetryable : StErrorCode → Bool
  | .stConnectFailed | .stRequestTimeout | .stCsrfFetchFailed | .stCharacterListFailed
  | .stChatListFailed | .stGenerateRateLimited | .stGenerateUpstream5xx | .stGenerateIdleTimeout
  | .stGenerateHardTimeout | .stGenerateStreamInvalid | .stGenerateEmpty | .stConnectorUnavailable
  | .stChatConflict | .stBackupFailed | .stCommitFailed | .stDeliveryFailed => true
  | _ => false

/-! ## Reading the body of an answer -/

def isJsonBody (contentType : Option String) (body : Bytes) : Bool :=
  let contentType := toAsciiLowercase (contentType.getD "")
  if containsText "json" contentType then true
  else if contentType ≠ "" then false
  else
    let trimmed := trim ((fromUtf8 body).getD "")
    startsWith "\x7b" trimmed || startsWith "[" trimmed

/-- The `code` of the `error` object, or else its `type`. -/
def jsonErrorCode (lib : Primitives) (body : Bytes) : Option String := do
  let value ← lib.parseJson body
  let error ← value.get "error"
  ((error.get "code").bind Json.asStr).or ((error.get "type").bind Json.asStr)

def jsonUpstreamCode (lib : Primitives) (contentType : Option String) (body : Option Bytes) :
    Option String := do
  let body ← body
  if isJsonBody contentType body then jsonErrorCode lib body else none

/-- The `error` object of the body and its code, if the code is one of the bridge's own. -/
def upstreamError (lib : Primitives) (contentType : Option String) (body : Option Bytes) :
    Option (Json × String × StErrorCode) := do
  let body ← body
  if isJsonBody contentType body then
    let value ← lib.parseJson body
    let error ← value.get "error"
    let code ← (error.get "code").bind Json.asStr
    let parsed ← StErrorCode.parse code
    return (error, code, parsed)
  else none

/-- The commit state an `error` object states. -/
def errorCommitState (error : Json) : Option CommitState :=
  ((error.get "commitState").bind Json.asStr).bind CommitState.parse

/-! ## The mapping -/

def mapped (facts : StErrorFacts) (code : StErrorCode) (stage : StErrorStage) (retryable : Bool)
    (commitState : CommitState) (upstreamHttpStatus : Option ℕ) (upstreamCode : Option String) :
    StBridgeError where
  code := code
  stage := stage
  safeMessage := safeMessage code
  upstreamHttpStatus := upstreamHttpStatus
  upstreamCode := upstreamCode
  endpointClass := facts.endpointClass
  retryable := retryable
  commitState := commitState
  operationId := facts.operationId
  attempt := facts.attempt

def mappedPlain (facts : StErrorFacts) (code : StErrorCode) (stage : StErrorStage)
    (retryable : Bool) (commitState : CommitState) : StBridgeError :=
  mapped facts code stage retryable commitState none none

def catalogCode (endpointClass : Option String) : StErrorCode :=
  if containsText "chat" (toAsciiLowercase (endpointClass.getD "")) then .stChatListFailed
  else .stCharacterListFailed

def map5xx (facts : StErrorFacts) : StErrorCode × StErrorStage × Bool × CommitState :=
  match facts.stage with
  | .generation => (.stGenerateUpstream5xx, facts.stage, true, facts.commitState)
  | .commit =>
    (.stCommitFailed, facts.stage, true,
      if facts.commitState = .unknown then .unknown else .notApplied)
  | .session => (.stCsrfFetchFailed, facts.stage, true, facts.commitState)
  | .connect => (.stConnectFailed, .connect, true, facts.commitState)
  | _ => (catalogCode facts.endpointClass, facts.stage, true, facts.commitState)

def mapOther4xx (facts : StErrorFacts) : StErrorCode × StErrorStage × Bool × CommitState :=
  match facts.stage with
  | .generation => (.stGenerateRejected, facts.stage, false, facts.commitState)
  | .commit => (.stCommitValidationFailed, facts.stage, false, facts.commitState)
  | .session => (.stCsrfMissing, .session, false, facts.commitState)
  | .catalog => (catalogCode facts.endpointClass, facts.stage, true, facts.commitState)
  | .snapshot => (.stChatPayloadInvalid, facts.stage, false, facts.commitState)
  | .connect => (.stConnectFailed, .connect, true, facts.commitState)
  | _ => (.stSessionRejected, facts.stage, false, facts.commitState)

/-- The error a recognised `error` object stands for. -/
def mapUpstreamStError (lib : Primitives) (facts : StErrorFacts) (status : ℕ)
    (contentType : Option String) (body : Option Bytes) : Option StBridgeError := do
  let (error, code, parsed) ← upstreamError lib contentType body
  let stage := (((error.get "stage").bind Json.asStr).bind StErrorStage.parse).getD facts.stage
  let retryable := ((error.get "retryable").bind Json.asBool).getD (defaultRetryable parsed)
  let commitState := (errorCommitState error).getD facts.commitState
  return mapped facts parsed stage retryable commitState (some status) (some code)

/-- What the status of an answer stands for when the body says nothing. -/
def mapStatus (facts : StErrorFacts) (status : ℕ) :
    StErrorCode × StErrorStage × Bool × CommitState :=
  if status = 403 ∨ status = 401 then (.stSessionRejected, .session, false, facts.commitState)
  else if status = 404 then (.stChatNotFound, .snapshot, false, facts.commitState)
  else if status = 409 ∧ facts.stage = .commit then (.stChatConflict, .commit, true, .notApplied)
  else if status = 413 then (.stCommitPayloadTooLarge, .commit, false, facts.commitState)
  else if status = 429 then (.stGenerateRateLimited, facts.stage, true, facts.commitState)
  else if 200 ≤ status ∧ status ≤ 299 then
    (.stChatPayloadInvalid, facts.stage, false, facts.commitState)
  else if 500 ≤ status ∧ status ≤ 599 then map5xx facts
  else mapOther4xx facts

def mapHttp (lib : Primitives) (facts : StErrorFacts) (status : ℕ) (contentType : Option String)
    (body : Option Bytes) : StBridgeError :=
  if status = 0 then
    mapped facts .stConnectFailed .connect true facts.commitState (some status)
      (jsonUpstreamCode lib contentType body)
  else
    match mapUpstreamStError lib facts status contentType body with
    | some error => error
    | none =>
      let (code, stage, retryable, commitState) := mapStatus facts status
      mapped facts code stage retryable commitState (some status)
        (jsonUpstreamCode lib contentType body)

def mapStError (lib : Primitives) (facts : StErrorFacts) : StBridgeError :=
  match facts.failure with
  | .connect => mappedPlain facts .stConnectFailed .connect true facts.commitState
  | .timeout => mappedPlain facts .stRequestTimeout facts.stage true facts.commitState
  | .http status contentType body => mapHttp lib facts status contentType body
  | .decodeInvalidPayload =>
    mappedPlain facts .stChatPayloadInvalid facts.stage false facts.commitState
  | .decodeSettings => mappedPlain facts .stSettingsInvalid facts.stage false facts.commitState
  | .connectorUnavailable =>
    mappedPlain facts .stConnectorUnavailable facts.stage true facts.commitState
  | .connectorAuth => mappedPlain facts .stConnectorAuthFailed facts.stage false facts.commitState
  | .connectorVersion =>
    mappedPlain facts .stConnectorVersionMismatch facts.stage false facts.commitState
  | .connectorMediaType =>
    mappedPlain facts .stConnectorMediaTypeRejected facts.stage false facts.commitState
  | .control code =>
    mappedPlain facts code facts.stage (defaultRetryable code) facts.commitState

/-! ## The commit state of the mapped error -/

section CommitState

variable (lib : Primitives)

/-- What a recognised `error` object in the body says about the write. -/
def statedCommitState (contentType : Option String) (body : Option Bytes) : Option CommitState :=
  (upstreamError lib contentType body).bind fun e => errorCommitState e.1

variable {facts : StErrorFacts}

theorem commitState_mapStError_of_not_http
    (h : ∀ status contentType body, facts.failure ≠ .http status contentType body) :
    (mapStError lib facts).commitState = facts.commitState := by
  unfold mapStError
  split
  case h_3 status contentType body hf => exact absurd hf (h status contentType body)
  all_goals rfl

/-- At the commit stage the status alone never overrides a commit state that was chosen by the class
of the status. -/
theorem commitState_mapStatus {status : ℕ} (hstage : facts.stage = .commit)
    (hstate : facts.commitState = if 400 ≤ status ∧ status ≤ 499 then .notApplied else .unknown) :
    (mapStatus facts status).2.2.2 = facts.commitState := by
  have h5xx : (map5xx facts).2.2.2 = if facts.commitState = .unknown then .unknown
      else .notApplied := by simp only [map5xx, hstage]
  have h4xx : (mapOther4xx facts).2.2.2 = facts.commitState := by simp only [mapOther4xx, hstage]
  by_cases hclient : 400 ≤ status ∧ status ≤ 499
  · rw [if_pos hclient] at hstate
    have hserver : ¬ (500 ≤ status ∧ status ≤ 599) := by omega
    simp only [mapStatus, hserver, if_false]
    split_ifs <;> simp only [h4xx, hstate]
  · rw [if_neg hclient] at hstate
    have h409 : ¬ (status = 409 ∧ facts.stage = .commit) := by omega
    simp only [mapStatus, h409, if_false]
    split_ifs <;> simp only [h4xx, h5xx, hstate, if_true]

/-- **The commit state of a rejected write**: what a recognised `error` object states, and without
one what the caller made of the status. -/
theorem commitState_mapHttp {status : ℕ} {contentType : Option String} {body : Option Bytes}
    (hstage : facts.stage = .commit) (hstatus : status ≠ 0)
    (hstate : facts.commitState = if 400 ≤ status ∧ status ≤ 499 then .notApplied else .unknown) :
    (mapHttp lib facts status contentType body).commitState =
      (statedCommitState lib contentType body).getD facts.commitState := by
  unfold mapHttp statedCommitState
  rw [if_neg hstatus]
  cases herror : upstreamError lib contentType body with
  | none =>
    simp only [mapUpstreamStError, herror]
    exact commitState_mapStatus hstage hstate
  | some e =>
    obtain ⟨error, code, parsed⟩ := e
    simp only [mapUpstreamStError, herror]
    rfl

end CommitState

end ImBridge
