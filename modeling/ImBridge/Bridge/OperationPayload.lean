import ImBridge.Bridge.OperationStore

/-!
# Encryption of recovery payloads

The payload of an operation is encrypted under a key of its own. The key is wrapped in the vault,
and the operation refers to the wrapped key by a reference of its own table. Whoever asks for the
key of an operation first creates both; a loser of that race drops its key and takes the one that
the reference names.

## Main definitions

* `locatorHash`: the hash of a locator that the encryption binds
* `OperationPayloadEncryptor`: a key with its version; `encrypt` and `decrypt`
* `OperationPayloadKeyProvider`: `forOperation` and `restoreForOperation`
-/

namespace ImBridge

open Interleaving Encoding

/-- The hash of the ordered parts of a locator, each behind its length. -/
def locatorHash (lib : Primitives) (handle avatar chatFile : String) : String :=
  lib.sha256Hex (frames 8 [utf8 handle, utf8 avatar, utf8 chatFile])

def operationDekKind : String := "operation_dek_v1"

def decryptFailed : AppError :=
  .badRequest "PAYLOAD_DECRYPT_FAILED" "operation payload could not be decrypted"

structure OperationPayloadEncryptor where
  operationDek : Dek
  keyVersion : UInt32
  wrappedSecretId : Option String
  deriving DecidableEq

def validateAad (aad : OperationAad) : AppResult Unit :=
  if aad.version = 0 || isBlank aad.operationId || isBlank aad.locatorHash ||
      isBlank aad.operationKind || isBlank aad.actorId || isBlank aad.botId then
    .error (.badRequest "PAYLOAD_AAD_INVALID"
      "operation payload authenticated identity is incomplete")
  else .ok ()

namespace OperationPayloadEncryptor

/-- A new key, wrapped in the vault. -/
def createWrapped (operationId : String) (keyVersion : UInt32) :
    AppTask OperationPayloadEncryptor := do
  if isBlank operationId then
    throw (.badRequest "PAYLOAD_OPERATION_ID_REQUIRED" "operation id is required for operation DEK")
  let operationDek ← ask .randomDek
  let secretId ← ExceptT.mk
    (ask (.vaultPut s!"operation:{operationId}" operationDekKind operationDek.val))
  return ⟨operationDek, keyVersion, some secretId⟩

/-- The key that these bytes are, under the secret they were read from. -/
def ofBytes (secretId : String) (keyVersion : UInt32) (bytes : Bytes) :
    AppResult OperationPayloadEncryptor :=
  if h : bytes.length = 32 then .ok ⟨⟨bytes, h⟩, keyVersion, some secretId⟩
  else .error decryptFailed

def fromWrapped (secretId : String) (keyVersion : UInt32) :
    AppTask OperationPayloadEncryptor := do
  if isBlank secretId then
    throw (.badRequest "PAYLOAD_KEY_REQUIRED" "wrapped operation DEK id is required")
  let bytes ← ExceptT.mk (ask (.vaultGet secretId))
  Fallible.ofExcept (ofBytes secretId keyVersion bytes)

section Cipher

variable (lib : Primitives) (self : OperationPayloadEncryptor)

/-- The payload under a nonce. -/
def sealWith (plaintext : Bytes) (aad : OperationAad) (nonce : Nonce) :
    AppResult EncryptedOperationPayload :=
  match lib.sealPayload self.operationDek nonce aad.encode plaintext with
  | some ciphertext => .ok ⟨ciphertext, nonce, self.keyVersion⟩
  | none => .error ⟨"PAYLOAD_ENCRYPT_FAILED", "operation payload encryption failed", 500⟩

def encrypt (plaintext : Bytes) (aad : OperationAad) : AppTask EncryptedOperationPayload := do
  Fallible.ofExcept (validateAad aad)
  let nonce ← ask .randomNonce
  Fallible.ofExcept (sealWith lib self plaintext aad nonce)

def decrypt (encrypted : EncryptedOperationPayload) (aad : OperationAad) : AppResult Bytes :=
  if encrypted.keyVersion ≠ self.keyVersion then .error decryptFailed
  else match validateAad aad with
    | .error _ => .error decryptFailed
    | .ok _ =>
      match lib.openPayload self.operationDek encrypted.nonce aad.encode encrypted.ciphertext with
      | some plaintext => .ok plaintext
      | none => .error decryptFailed

end Cipher

end OperationPayloadEncryptor

/-- What hands out the keys of operations. New keys get its version, which is never zero. -/
structure OperationPayloadKeyProvider where
  keyVersion : UInt32
  positive : keyVersion ≠ 0

namespace OperationPayloadKeyProvider

open OperationStore OperationPayloadEncryptor

def withKeyVersion (keyVersion : UInt32) : OperationPayloadKeyProvider :=
  if h : keyVersion = 0 then ⟨1, by decide⟩ else ⟨keyVersion, h⟩

/-- The key that a reference names. -/
def load (reference : OperationKeyReference) : AppTask OperationPayloadEncryptor :=
  fromWrapped reference.wrappedSecretId reference.keyVersion

/-- Makes the key the operation's, unless another one already is: then that one is taken. -/
def adopt (operationId : String) (encryptor : OperationPayloadEncryptor) :
    AppTask OperationPayloadEncryptor :=
  match encryptor.wrappedSecretId with
  | none => throw (.internal "operation DEK reference was not returned")
  | some secretId => do
    match ← (putOperationKeyReference operationId secretId encryptor.keyVersion).attempt with
    | .ok _ => pure encryptor
    | .error error =>
      match ← getOperationKeyReference operationId with
      | some reference => load reference
      | none => throw error

def forOperation (self : OperationPayloadKeyProvider) (operationId : String) :
    AppTask OperationPayloadEncryptor := do
  match ← getOperationKeyReference operationId with
  | some reference => load reference
  | none =>
    let encryptor ← createWrapped operationId self.keyVersion
    adopt operationId encryptor

def restoreForOperation (operationId : String) : AppTask OperationPayloadEncryptor := do
  match ← getOperationKeyReference operationId with
  | some reference => load reference
  | none =>
    throw (.serviceUnavailable "PAYLOAD_KEY_REFERENCE_MISSING"
      "operation payload key reference is missing")

end OperationPayloadKeyProvider

end ImBridge
