import ImBridge.Domain.St

/-!
# Errors of the bridge

The two error types of the bridge: the error a caller of the chat backend sees, with the stage it
happened in and what is known about the write, and the error of the bridge's own storage.

## Main definitions

* `StErrorStage`, `StErrorCode`, `CommitState`: the enumerations of the error, with the texts they
  are stored and sent as
* `StBridgeError`, `StResult`: errors of the chat backend
* `AppError`, `AppResult`: errors of the bridge's own storage
* `ChatError`: errors of the chat layer, which may stand for one of the chat backend
-/

namespace ImBridge

inductive StErrorStage
  | control
  | connect
  | session
  | catalog
  | snapshot
  | prompt
  | generation
  | commit
  | delivery
  deriving DecidableEq, Repr

namespace StErrorStage

def asStr : StErrorStage → String
  | control => "control"
  | connect => "connect"
  | session => "session"
  | catalog => "catalog"
  | snapshot => "snapshot"
  | prompt => "prompt"
  | generation => "generation"
  | commit => "commit"
  | delivery => "delivery"

def parse : String → Option StErrorStage
  | "control" => some control
  | "connect" => some connect
  | "session" => some session
  | "catalog" => some catalog
  | "snapshot" => some snapshot
  | "prompt" => some prompt
  | "generation" => some generation
  | "commit" => some commit
  | "delivery" => some delivery
  | _ => none

end StErrorStage

/-- What is known about a write: not begun, not applied, applied, or nothing. -/
inductive CommitState
  | notStarted
  | notApplied
  | applied
  | unknown
  deriving DecidableEq, Repr

namespace CommitState

def parse : String → Option CommitState
  | "not_started" => some notStarted
  | "not_applied" => some notApplied
  | "applied" => some applied
  | "unknown" => some unknown
  | _ => none

end CommitState

inductive StErrorCode
  | stConnectFailed
  | stRequestTimeout
  | stCsrfFetchFailed
  | stCsrfMissing
  | stSessionRejected
  | stCharacterListFailed
  | stChatListFailed
  | stChatNotFound
  | stChatPayloadInvalid
  | stSettingsInvalid
  | stGenerateRejected
  | stGenerateRateLimited
  | stGenerateUpstream5xx
  | stGenerateIdleTimeout
  | stGenerateHardTimeout
  | stGenerateStreamInvalid
  | stGenerateEmpty
  | stGenerateStateUnknown
  | stConnectorUnavailable
  | stConnectorAuthFailed
  | stConnectorVersionMismatch
  | stConnectorMediaTypeRejected
  | stWriteNotReady
  | stTestScopeRequired
  | stPollerNotOwner
  | stPollerEpochMismatch
  | stChatLocatorRejected
  | stChatIntegrityMissing
  | stChatConflict
  | stOperationIdReused
  | stBackupFailed
  | stBackupQuotaExceeded
  | stWriteVerifyFailed
  | stCommitPayloadTooLarge
  | stCommitValidationFailed
  | stCommitFailed
  | stCommitStateUnknown
  | stDeliveryFailed
  deriving DecidableEq, Repr

namespace StErrorCode

def asStr : StErrorCode → String
  | stConnectFailed => "ST_CONNECT_FAILED"
  | stRequestTimeout => "ST_REQUEST_TIMEOUT"
  | stCsrfFetchFailed => "ST_CSRF_FETCH_FAILED"
  | stCsrfMissing => "ST_CSRF_MISSING"
  | stSessionRejected => "ST_SESSION_REJECTED"
  | stCharacterListFailed => "ST_CHARACTER_LIST_FAILED"
  | stChatListFailed => "ST_CHAT_LIST_FAILED"
  | stChatNotFound => "ST_CHAT_NOT_FOUND"
  | stChatPayloadInvalid => "ST_CHAT_PAYLOAD_INVALID"
  | stSettingsInvalid => "ST_SETTINGS_INVALID"
  | stGenerateRejected => "ST_GENERATE_REJECTED"
  | stGenerateRateLimited => "ST_GENERATE_RATE_LIMITED"
  | stGenerateUpstream5xx => "ST_GENERATE_UPSTREAM_5XX"
  | stGenerateIdleTimeout => "ST_GENERATE_IDLE_TIMEOUT"
  | stGenerateHardTimeout => "ST_GENERATE_HARD_TIMEOUT"
  | stGenerateStreamInvalid => "ST_GENERATE_STREAM_INVALID"
  | stGenerateEmpty => "ST_GENERATE_EMPTY"
  | stGenerateStateUnknown => "ST_GENERATE_STATE_UNKNOWN"
  | stConnectorUnavailable => "ST_CONNECTOR_UNAVAILABLE"
  | stConnectorAuthFailed => "ST_CONNECTOR_AUTH_FAILED"
  | stConnectorVersionMismatch => "ST_CONNECTOR_VERSION_MISMATCH"
  | stConnectorMediaTypeRejected => "ST_CONNECTOR_MEDIA_TYPE_REJECTED"
  | stWriteNotReady => "ST_WRITE_NOT_READY"
  | stTestScopeRequired => "ST_TEST_SCOPE_REQUIRED"
  | stPollerNotOwner => "ST_POLLER_NOT_OWNER"
  | stPollerEpochMismatch => "ST_POLLER_EPOCH_MISMATCH"
  | stChatLocatorRejected => "ST_CHAT_LOCATOR_REJECTED"
  | stChatIntegrityMissing => "ST_CHAT_INTEGRITY_MISSING"
  | stChatConflict => "ST_CHAT_CONFLICT"
  | stOperationIdReused => "ST_OPERATION_ID_REUSED"
  | stBackupFailed => "ST_BACKUP_FAILED"
  | stBackupQuotaExceeded => "ST_BACKUP_QUOTA_EXCEEDED"
  | stWriteVerifyFailed => "ST_WRITE_VERIFY_FAILED"
  | stCommitPayloadTooLarge => "ST_COMMIT_PAYLOAD_TOO_LARGE"
  | stCommitValidationFailed => "ST_COMMIT_VALIDATION_FAILED"
  | stCommitFailed => "ST_COMMIT_FAILED"
  | stCommitStateUnknown => "ST_COMMIT_STATE_UNKNOWN"
  | stDeliveryFailed => "ST_DELIVERY_FAILED"

def parse : String → Option StErrorCode
  | "ST_CONNECT_FAILED" => some stConnectFailed
  | "ST_REQUEST_TIMEOUT" => some stRequestTimeout
  | "ST_CSRF_FETCH_FAILED" => some stCsrfFetchFailed
  | "ST_CSRF_MISSING" => some stCsrfMissing
  | "ST_SESSION_REJECTED" => some stSessionRejected
  | "ST_CHARACTER_LIST_FAILED" => some stCharacterListFailed
  | "ST_CHAT_LIST_FAILED" => some stChatListFailed
  | "ST_CHAT_NOT_FOUND" => some stChatNotFound
  | "ST_CHAT_PAYLOAD_INVALID" => some stChatPayloadInvalid
  | "ST_SETTINGS_INVALID" => some stSettingsInvalid
  | "ST_GENERATE_REJECTED" => some stGenerateRejected
  | "ST_GENERATE_RATE_LIMITED" => some stGenerateRateLimited
  | "ST_GENERATE_UPSTREAM_5XX" => some stGenerateUpstream5xx
  | "ST_GENERATE_IDLE_TIMEOUT" => some stGenerateIdleTimeout
  | "ST_GENERATE_HARD_TIMEOUT" => some stGenerateHardTimeout
  | "ST_GENERATE_STREAM_INVALID" => some stGenerateStreamInvalid
  | "ST_GENERATE_EMPTY" => some stGenerateEmpty
  | "ST_GENERATE_STATE_UNKNOWN" => some stGenerateStateUnknown
  | "ST_CONNECTOR_UNAVAILABLE" => some stConnectorUnavailable
  | "ST_CONNECTOR_AUTH_FAILED" => some stConnectorAuthFailed
  | "ST_CONNECTOR_VERSION_MISMATCH" => some stConnectorVersionMismatch
  | "ST_CONNECTOR_MEDIA_TYPE_REJECTED" => some stConnectorMediaTypeRejected
  | "ST_WRITE_NOT_READY" => some stWriteNotReady
  | "ST_TEST_SCOPE_REQUIRED" => some stTestScopeRequired
  | "ST_POLLER_NOT_OWNER" => some stPollerNotOwner
  | "ST_POLLER_EPOCH_MISMATCH" => some stPollerEpochMismatch
  | "ST_CHAT_LOCATOR_REJECTED" => some stChatLocatorRejected
  | "ST_CHAT_INTEGRITY_MISSING" => some stChatIntegrityMissing
  | "ST_CHAT_CONFLICT" => some stChatConflict
  | "ST_OPERATION_ID_REUSED" => some stOperationIdReused
  | "ST_BACKUP_FAILED" => some stBackupFailed
  | "ST_BACKUP_QUOTA_EXCEEDED" => some stBackupQuotaExceeded
  | "ST_WRITE_VERIFY_FAILED" => some stWriteVerifyFailed
  | "ST_COMMIT_PAYLOAD_TOO_LARGE" => some stCommitPayloadTooLarge
  | "ST_COMMIT_VALIDATION_FAILED" => some stCommitValidationFailed
  | "ST_COMMIT_FAILED" => some stCommitFailed
  | "ST_COMMIT_STATE_UNKNOWN" => some stCommitStateUnknown
  | "ST_DELIVERY_FAILED" => some stDeliveryFailed
  | _ => none

end StErrorCode

/-- The error a caller of the chat backend sees. -/
structure StBridgeError where
  code : StErrorCode
  stage : StErrorStage
  safeMessage : String
  upstreamHttpStatus : Option ℕ := none
  upstreamCode : Option String := none
  endpointClass : Option String := none
  retryable : Bool
  commitState : CommitState
  operationId : Option String := none
  attempt : ℕ := 1
  deriving DecidableEq, Repr

abbrev StResult := Except StBridgeError

/-- The error of the bridge's own storage and key handling. -/
structure AppError where
  code : String
  message : String
  status : ℕ
  deriving DecidableEq, Repr

abbrev AppResult := Except AppError

namespace AppError

def unauthorized (message : String) : AppError := ⟨"UNAUTHORIZED", message, 401⟩

def notFound (code message : String) : AppError := ⟨code, message, 404⟩

def tooMany (message : String) : AppError := ⟨"RATE_LIMITED", message, 429⟩

def badRequest (code message : String) : AppError := ⟨code, message, 400⟩

def conflict (code message : String) : AppError := ⟨code, message, 409⟩

def badGateway (code message : String) : AppError := ⟨code, message, 502⟩

def serviceUnavailable (code message : String) : AppError := ⟨code, message, 503⟩

def internal (message : String) : AppError := ⟨"INTERNAL_ERROR", message, 500⟩

/-- The error that stands for a failed statement. -/
def database : AppError := internal "database error"

end AppError

/-- An error of the chat layer, which may stand for one of the chat backend. -/
structure ChatError where
  app : AppError
  st : Option StBridgeError
  deriving DecidableEq

namespace ChatError

def ofApp (app : AppError) : ChatError := ⟨app, none⟩

/-- `AppError::from_st`. -/
def fromSt (error : StBridgeError) : ChatError where
  app :=
    { code := error.code.asStr
      message := error.safeMessage
      status := match error.code with
        | .stWriteNotReady | .stChatConflict => 409
        | .stChatNotFound => 404
        | .stGenerateRateLimited => 429
        | .stSessionRejected | .stCsrfMissing | .stConnectorAuthFailed => 403
        | _ => if error.retryable then 502 else 400 }
  st := some error

def database : ChatError := ofApp .database

def badRequest (code message : String) : ChatError := ofApp (.badRequest code message)

def conflict (code message : String) : ChatError := ofApp (.conflict code message)

def badGateway (code message : String) : ChatError := ofApp (.badGateway code message)

def serviceUnavailable (code message : String) : ChatError :=
  ofApp (.serviceUnavailable code message)

def internal (message : String) : ChatError := ofApp (.internal message)

end ChatError

end ImBridge
