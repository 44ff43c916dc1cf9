import ImBridge.Bridge.Errors
import ImBridge.Encoding.Base64
import ImBridge.Encoding.Frame

/-!
# Character cards

A character is a JSON card, on its own or in the text chunks of a PNG image. The file is walked
chunk by chunk, both to find the card and to write another one in its place.

## Main definitions

* `CardLibrary`: the library functions that cards are read and written with
* `CardPng.parsePngCard`: the card of a file
* `CardPng.encodePngWithCard`: the image with another card
-/

namespace ImBridge

open Encoding

/-- The library functions: SHA-256 in hexadecimal, CRC-32, the JSON library, whose errors have a
text, and Base64 in the standard alphabet. -/
structure CardLibrary where
  sha256Hex : Bytes → String
  crc32 : Bytes → UInt32
  toVec : Json → Bytes
  fromSlice : Bytes → Except String Json
  encode : Bytes → String
  decode : String → Option Bytes
  decode_encode : ∀ bytes, decode (encode bytes) = some bytes
  length_encode : ∀ bytes, (encode bytes).toList.length = 4 * ((bytes.length + 2) / 3)
  mem_encode : ∀ bytes, ∀ c ∈ (encode bytes).toList, c ∈ Base64.alphabet ∨ c = '='

namespace CardPng

variable (lib : CardLibrary)

def pngSig : Bytes := [137, 80, 78, 71, 13, 10, 26, 10]

def maxJsonBytes : ℕ := 2 * 1024 * 1024

structure ParsedCard where
  sourceFormat : String
  spec : Option String
  specVersion : Option String
  raw : Json
  checksum : String
  warnings : List String

def parsedFromValue (raw : Json) (sourceFormat : String) (warnings : List String) : ParsedCard :=
  let spec := (raw.get "spec").bind Json.asStr
  let specVersion := (raw.get "spec_version").bind Json.asStr
  let isV3 := spec == some "chara_card_v3" || (specVersion.map (startsWith "3")).getD false
  let hasBook := ((raw.get "data").bind (Json.get · "character_book")).isSome
  { sourceFormat, spec, specVersion, raw
    checksum := lib.sha256Hex (lib.toVec raw)
    warnings :=
      if isV3 then warnings
      else if hasBook then
        warnings ++ ["character_book is stored but not executed by legacy_bridge_v1"]
      else warnings }

/-! ## Reading a PNG -/

/-- The next `n` bytes, and what follows them. -/
def readExact (n : ℕ) (rest : Bytes) : Option (Bytes × Bytes) :=
  if n ≤ rest.length then some (rest.take n, rest.drop n) else none

def fromBeBytes (bytes : Bytes) : ℕ := ofBigEndian bytes

/-- The four bytes of a number that is cut to 32 bits. -/
def u32ToBeBytes (n : ℕ) : Bytes := bigEndian 4 n

def pngInvalid (message : String) : AppError := .badRequest "PNG_INVALID" message

def readOr (message : String) (n : ℕ) (rest : Bytes) : AppResult (Bytes × Bytes) :=
  match readExact n rest with
  | some read => .ok read
  | none => .error (pngInvalid message)

/-- The type, the data and what follows of the next chunk; nothing at the end of the file. -/
def readChunk (rest : Bytes) : AppResult (Option (Bytes × Bytes × Bytes)) :=
  match readExact 4 rest with
  | none => .ok none
  | some (lenBuf, rest) => do
    let (typeBuf, rest) ← readOr "truncated PNG chunk type" 4 rest
    if fromBeBytes lenBuf > maxJsonBytes then
      throw (.badRequest "PNG_CHUNK_TOO_LARGE" "PNG text chunk too large")
    else do
      let (data, rest) ← readOr "truncated PNG chunk data" (fromBeBytes lenBuf) rest
      let (crcBuf, rest) ← readOr "truncated PNG CRC" 4 rest
      if fromBeBytes crcBuf ≠ (lib.crc32 (typeBuf ++ data)).toNat then
        throw (.badRequest "PNG_CRC_MISMATCH" "PNG chunk CRC mismatch")
      else return some (typeBuf, data, rest)

/-- The keyword and the text of a text chunk. -/
def splitTextChunk (data : Bytes) : Option (String × String) := do
  let nul ← data.findIdx? (· == 0)
  let keyword ← fromUtf8 (data.take nul)
  let text ← fromUtf8 (data.drop (nul + 1))
  return (keyword, text)

def decodeCardText (text : String) : AppResult Json :=
  match lib.decode (trim text) with
  | none => .error (.badRequest "PNG_CARD_B64" "PNG card metadata is not valid Base64")
  | some decoded =>
    if decoded.length > maxJsonBytes then
      .error (.badRequest "CARD_TOO_LARGE" "decoded card JSON exceeds size limit")
    else
      match lib.fromSlice decoded with
      | .error err => .error (.badRequest "PNG_CARD_JSON" ("PNG card JSON invalid: " ++ err))
      | .ok raw => .ok raw

/-- The cards found so far. -/
structure FoundCards where
  chara : Option Json := none
  ccv3 : Option Json := none

/-- The text of a chunk type; other bytes than UTF-8 count as no type at all. -/
def chunkType (typeBuf : Bytes) : String := (fromUtf8 typeBuf).getD ""

/-- The cards found after a chunk. -/
def takeChunk (typeBuf data : Bytes) (found : FoundCards) : AppResult FoundCards :=
  if chunkType typeBuf = "tEXt" then
    match splitTextChunk data with
    | some (keyword, text) =>
      if keyword = "ccv3" then
        (decodeCardText lib text).map fun raw => { found with ccv3 := some raw }
      else if keyword = "chara" then
        (decodeCardText lib text).map fun raw => { found with chara := some raw }
      else .ok found
    | none => .ok found
  else .ok found

theorem readExact_length {n : ℕ} {rest read rest' : Bytes}
    (h : readExact n rest = some (read, rest')) : read.length = n ∧ rest = read ++ rest' := by
  unfold readExact at h
  split at h
  · cases h
    exact ⟨List.length_take_of_le ‹_›, (List.take_append_drop n rest).symm⟩
  · cases h

theorem readOr_eq_ok {message : String} {n : ℕ} {rest : Bytes} {read : Bytes × Bytes} :
    readOr message n rest = .ok read ↔ readExact n rest = some read := by
  unfold readOr
  cases readExact n rest <;> simp

/-- What the reader says of a chunk that it has read. -/
theorem readChunk_eq_some {rest typeBuf data rest' : Bytes}
    (h : readChunk lib rest = .ok (some (typeBuf, data, rest'))) :
    ∃ lenBuf crcBuf : Bytes, lenBuf.length = 4 ∧ typeBuf.length = 4 ∧
      data.length = fromBeBytes lenBuf ∧ crcBuf.length = 4 ∧ data.length ≤ maxJsonBytes ∧
      fromBeBytes crcBuf = (lib.crc32 (typeBuf ++ data)).toNat ∧
      rest = lenBuf ++ typeBuf ++ data ++ crcBuf ++ rest' := by
  unfold readChunk at h
  split at h
  · cases h
  · rename_i lenBuf rest₁ hlen
    obtain ⟨⟨type, rest₂⟩, htype, h⟩ := exists_of_bind_eq_ok h
    simp only at h
    split at h
    · cases h
    · rename_i hsize
      obtain ⟨⟨bytes, rest₃⟩, hdata, h⟩ := exists_of_bind_eq_ok h
      obtain ⟨⟨crcBuf, rest₄⟩, hcrc, h⟩ := exists_of_bind_eq_ok h
      simp only at h
      split at h
      · cases h
      · rename_i hcheck
        cases h
        obtain ⟨hlenBuf, rfl⟩ := readExact_length hlen
        obtain ⟨htypeBuf, rfl⟩ := readExact_length (readOr_eq_ok.mp htype)
        obtain ⟨hbytes, rfl⟩ := readExact_length (readOr_eq_ok.mp hdata)
        obtain ⟨hcrcBuf, rfl⟩ := readExact_length (readOr_eq_ok.mp hcrc)
        exact ⟨lenBuf, crcBuf, hlenBuf, htypeBuf, hbytes, hcrcBuf, by omega,
          not_not.mp hcheck, by simp⟩

/-- The chunks up to the end of the image, or of the file. -/
def parseChunks (rest : Bytes) (found : FoundCards) : AppResult FoundCards :=
  match _hread : readChunk lib rest with
  | .error e => .error e
  | .ok none => .ok found
  | .ok (some (typeBuf, data, rest')) =>
    if chunkType typeBuf = "IEND" then .ok found
    else
      match takeChunk lib typeBuf data found with
      | .error e => .error e
      | .ok found' => parseChunks rest' found'
termination_by rest.length
decreasing_by
  obtain ⟨lenBuf, crcBuf, hlen, -, -, -, -, -, rfl⟩ := readChunk_eq_some lib _hread
  simp only [List.length_append]
  omega

def parsePngCard (bytes : Bytes) : AppResult ParsedCard :=
  if !pngSig.isPrefixOf bytes then .error (pngInvalid "file is not a PNG")
  else do
    let found ← parseChunks lib (bytes.drop pngSig.length) {}
    match found.ccv3 with
    | some raw => return parsedFromValue lib raw "png" []
    | none =>
      match found.chara with
      | some raw => return parsedFromValue lib raw "png" []
      | none =>
        throw (.badRequest "PNG_CARD_MISSING" "PNG does not contain ccv3 or chara metadata")

/-! ## Writing a PNG -/

def textType : Bytes := utf8 "tEXt"

/-- A text chunk. -/
def textChunk (keyword text : String) : Bytes :=
  let data := utf8 keyword ++ 0 :: utf8 text
  u32ToBeBytes data.length ++ textType ++ data ++
    u32ToBeBytes (lib.crc32 (textType ++ data)).toNat

def writeTextChunk (output : Bytes) (keyword text : String) : Bytes :=
  output ++ textChunk lib keyword text

/-- The header, the data, the checksum and what follows of the next chunk; nothing at the end of the
file. Neither the size nor the checksum is looked at. -/
def copyChunk (rest : Bytes) : AppResult (Option (Bytes × Bytes × Bytes × Bytes)) :=
  match readExact 8 rest with
  | none => .ok none
  | some (header, rest) => do
    let (data, rest) ← readOr "truncated PNG while exporting" (fromBeBytes (header.take 4)) rest
    let (crc, rest) ← readOr "truncated PNG CRC while exporting" 4 rest
    return some (header, data, crc, rest)

/-- The chunk holds a card. -/
def holdsCard (typeBuf data : Bytes) : Bool :=
  chunkType typeBuf == "tEXt" &&
    match splitTextChunk data with
    | some (keyword, _) => keyword == "ccv3" || keyword == "chara"
    | none => false

theorem copyChunk_eq_some {rest header data crc rest' : Bytes}
    (h : copyChunk rest = .ok (some (header, data, crc, rest'))) :
    header.length = 8 ∧ data.length = fromBeBytes (header.take 4) ∧ crc.length = 4 ∧
      rest = header ++ data ++ crc ++ rest' := by
  unfold copyChunk at h
  split at h
  · cases h
  · rename_i header₁ rest₁ hheader
    obtain ⟨⟨data₁, rest₂⟩, hdata, h⟩ := exists_of_bind_eq_ok h
    obtain ⟨⟨crc₁, rest₃⟩, hcrc, h⟩ := exists_of_bind_eq_ok h
    cases h
    obtain ⟨hheader₁, rfl⟩ := readExact_length hheader
    obtain ⟨hdata₁, rfl⟩ := readExact_length (readOr_eq_ok.mp hdata)
    obtain ⟨hcrc₁, rfl⟩ := readExact_length (readOr_eq_ok.mp hcrc)
    exact ⟨hheader₁, hdata₁, hcrc₁, by simp⟩

/-- The chunks that are kept, and before the end of the image the new cards. -/
def encodeChunks (encoded : String) (rest output : Bytes) : AppResult Bytes :=
  match _hread : copyChunk rest with
  | .error e => .error e
  | .ok none => .ok output
  | .ok (some (header, data, crc, rest')) =>
    if holdsCard (header.drop 4) data then encodeChunks encoded rest' output
    else if chunkType (header.drop 4) = "IEND" then
      let output := writeTextChunk lib output "chara" encoded
      let output := writeTextChunk lib output "ccv3" encoded
      .ok (output ++ header ++ data ++ crc)
    else encodeChunks encoded rest' (output ++ header ++ data ++ crc)
termination_by rest.length
decreasing_by
  all_goals
    obtain ⟨hheader, -, -, rfl⟩ := copyChunk_eq_some _hread
    simp only [List.length_append]
    omega

def encodePngWithCard (originalPng : Bytes) (raw : Json) : AppResult Bytes :=
  if !pngSig.isPrefixOf originalPng then
    .error (pngInvalid "cannot export non-PNG asset as PNG")
  else
    let encoded := lib.encode (lib.toVec raw)
    encodeChunks lib encoded (originalPng.drop pngSig.length) pngSig

end CardPng

end ImBridge
