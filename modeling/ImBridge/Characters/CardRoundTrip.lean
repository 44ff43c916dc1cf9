import ImBridge.Characters.CardPng
import ImBridge.Domain.JsonText
import ImBridge.Encoding.Utf8

/-!
# Cards that are written and read back

A PNG is a signature and a row of chunks. The reader stops at the end of the image or at the end of
the file, and refuses chunks over its limit; the writer puts the card before the end of the image,
whatever its size. So a card comes back exactly if the image has an end and the card is small enough
for its Base64 text to stay under the limit.

## Main definitions

* `Chunk`, `Chunk.bytes`: a chunk, with the length that it states
* `EndsImage`: the chunks of the file lead to an end of the image

## Main results

* `parseChunks_flatMap`, `encodeChunks_flatMap`: the two walks over a row of chunks
* `card_round_trip`: when a card comes back
* `large_card_lost`: a card that does not come back
-/

namespace ImBridge

open Encoding

variable (rest : Bytes)

namespace CardPng

/-! ## Chunks -/

/-- A chunk of a PNG. Its length is that of its data; its checksum may be wrong. -/
structure Chunk where
  lenBuf : Bytes
  typeBuf : Bytes
  data : Bytes
  crcBuf : Bytes
  length_lenBuf : lenBuf.length = 4
  length_typeBuf : typeBuf.length = 4
  length_crcBuf : crcBuf.length = 4
  length_data : data.length = fromBeBytes lenBuf

namespace Chunk

def bytes (c : Chunk) : Bytes := c.lenBuf ++ c.typeBuf ++ c.data ++ c.crcBuf

/-- The reader takes the chunk. -/
structure Accepted (lib : CardLibrary) (c : Chunk) : Prop where
  size : c.data.length ≤ maxJsonBytes
  crc : fromBeBytes c.crcBuf = (lib.crc32 (c.typeBuf ++ c.data)).toNat

/-- The chunk is the end of the image. -/
def IsEnd (c : Chunk) : Prop := chunkType c.typeBuf = "IEND"

instance (c : Chunk) : Decidable c.IsEnd := inferInstanceAs (Decidable (_ = _))

def holdsCard (c : Chunk) : Bool := CardPng.holdsCard c.typeBuf c.data

end Chunk

variable {n : ℕ}

theorem readExact_append {read : Bytes} (h : read.length = n) (rest : Bytes) :
    readExact n (read ++ rest) = some (read, rest) := by
  subst h
  simp [readExact]

theorem readOr_append {read : Bytes} (h : read.length = n) (message : String) (rest : Bytes) :
    readOr message n (read ++ rest) = .ok (read, rest) :=
  readOr_eq_ok.mpr (readExact_append h rest)

variable {rest : Bytes}

theorem readExact_of_lt (h : rest.length < n) : readExact n rest = none :=
  if_neg (by omega)

variable {lib : CardLibrary}

theorem readChunk_of_lt (h : rest.length < 4) : readChunk lib rest = .ok none := by
  rw [readChunk, readExact_of_lt h]

variable (c : Chunk)

/-- What the reader makes of a chunk. -/
theorem readChunk_bytes :
    readChunk lib (c.bytes ++ rest) =
      if maxJsonBytes < c.data.length then
        .error (.badRequest "PNG_CHUNK_TOO_LARGE" "PNG text chunk too large")
      else if fromBeBytes c.crcBuf ≠ (lib.crc32 (c.typeBuf ++ c.data)).toNat then
        .error (.badRequest "PNG_CRC_MISMATCH" "PNG chunk CRC mismatch")
      else .ok (some (c.typeBuf, c.data, rest)) := by
  have hbytes : c.bytes ++ rest = c.lenBuf ++ (c.typeBuf ++ (c.data ++ (c.crcBuf ++ rest))) := by
    simp [Chunk.bytes]
  rw [hbytes, readChunk, readExact_append c.length_lenBuf]
  simp only [readOr_append c.length_typeBuf, bind, Except.bind, ← c.length_data]
  by_cases hsize : maxJsonBytes < c.data.length
  · rw [if_pos hsize, if_pos hsize]
    rfl
  · rw [if_neg hsize, if_neg hsize]
    simp only [readOr_append rfl, readOr_append c.length_crcBuf]
    rfl

variable {c : Chunk}

theorem readChunk_of_accepted (h : c.Accepted lib) (rest : Bytes) :
    readChunk lib (c.bytes ++ rest) = .ok (some (c.typeBuf, c.data, rest)) := by
  rw [readChunk_bytes, if_neg (by have := h.size; omega), if_neg (not_not_intro h.crc)]

theorem accepted_of_readChunk {read : Option (Bytes × Bytes × Bytes)}
    (h : readChunk lib (c.bytes ++ rest) = .ok read) :
    c.Accepted lib ∧ read = some (c.typeBuf, c.data, rest) := by
  rw [readChunk_bytes] at h
  split at h
  · cases h
  · rename_i hsize
    split at h
    · cases h
    · rename_i hcrc
      exact ⟨⟨by omega, not_not.mp hcrc⟩, (Except.ok.inj h).symm⟩

theorem copyChunk_of_lt (h : rest.length < 8) : copyChunk rest = .ok none := by
  rw [copyChunk, readExact_of_lt h]

theorem take_header : (c.lenBuf ++ c.typeBuf).take 4 = c.lenBuf :=
  List.take_left' c.length_lenBuf

theorem drop_header : (c.lenBuf ++ c.typeBuf).drop 4 = c.typeBuf :=
  List.drop_left' c.length_lenBuf

theorem copyChunk_bytes :
    copyChunk (c.bytes ++ rest) =
      .ok (some (c.lenBuf ++ c.typeBuf, c.data, c.crcBuf, rest)) := by
  have hbytes : c.bytes ++ rest = (c.lenBuf ++ c.typeBuf) ++ (c.data ++ (c.crcBuf ++ rest)) := by
    simp [Chunk.bytes]
  have hheader : (c.lenBuf ++ c.typeBuf).length = 8 := by
    rw [List.length_append, c.length_lenBuf, c.length_typeBuf]
  rw [hbytes, copyChunk, readExact_append hheader]
  simp only [take_header, ← c.length_data, readOr_append rfl, readOr_append c.length_crcBuf, bind,
    Except.bind]
  rfl

/-! ## The walk of the reader -/

theorem parseChunks_eq (found : FoundCards) :
    parseChunks lib rest found =
      match readChunk lib rest with
      | .error e => .error e
      | .ok none => .ok found
      | .ok (some (typeBuf, data, rest')) =>
        if chunkType typeBuf = "IEND" then .ok found
        else
          match takeChunk lib typeBuf data found with
          | .error e => .error e
          | .ok found' => parseChunks lib rest' found' := by
  rw [parseChunks]
  split <;> rename_i hread <;> exact hread ▸ rfl

theorem parseChunks_of_lt (h : rest.length < 4) (found : FoundCards) :
    parseChunks lib rest found = .ok found := by
  rw [parseChunks_eq, readChunk_of_lt h]

theorem parseChunks_end (haccepted : c.Accepted lib) (hend : c.IsEnd) (rest : Bytes)
    (found : FoundCards) : parseChunks lib (c.bytes ++ rest) found = .ok found := by
  rw [parseChunks_eq, readChunk_of_accepted haccepted]
  exact if_pos hend

theorem parseChunks_cons (haccepted : c.Accepted lib) (hend : ¬ c.IsEnd) (rest : Bytes)
    (found : FoundCards) :
    parseChunks lib (c.bytes ++ rest) found =
      takeChunk lib c.typeBuf c.data found >>= parseChunks lib rest := by
  rw [parseChunks_eq, readChunk_of_accepted haccepted]
  simp only
  rw [if_neg (show ¬ chunkType c.typeBuf = "IEND" from hend)]
  cases takeChunk lib c.typeBuf c.data found <;> rfl

/-- A chunk without a card leaves what was found. -/
theorem takeChunk_of_not_holdsCard (h : c.holdsCard = false) (found : FoundCards) :
    takeChunk lib c.typeBuf c.data found = .ok found := by
  unfold takeChunk
  by_cases htype : chunkType c.typeBuf = "tEXt"
  · rw [if_pos htype]
    simp only [Chunk.holdsCard, holdsCard, htype, beq_self_eq_true, Bool.true_and] at h
    split
    · rename_i keyword text hsplit
      rw [hsplit] at h
      simp only [Bool.or_eq_false_iff, beq_eq_false_iff_ne] at h
      rw [if_neg h.1, if_neg h.2]
    · rfl
  · rw [if_neg htype]

variable {chunks : List Chunk}

/-- Chunks without cards are walked over. -/
theorem parseChunks_flatMap (haccepted : ∀ c ∈ chunks, c.Accepted lib)
    (hend : ∀ c ∈ chunks, ¬ c.IsEnd) (hcard : ∀ c ∈ chunks, c.holdsCard = false) (rest : Bytes)
    (found : FoundCards) :
    parseChunks lib (chunks.flatMap Chunk.bytes ++ rest) found = parseChunks lib rest found := by
  induction chunks with
  | nil => rfl
  | cons c chunks ih =>
    rw [List.flatMap_cons, List.append_assoc,
      parseChunks_cons (haccepted c (by simp)) (hend c (by simp)),
      takeChunk_of_not_holdsCard (hcard c (by simp))]
    exact ih (fun c hc => haccepted c (by simp [hc])) (fun c hc => hend c (by simp [hc]))
      (fun c hc => hcard c (by simp [hc]))

/-- The chunks that were walked are accepted, and the walk goes on behind them. -/
theorem accepted_of_parseChunks {found found' : FoundCards}
    (h : parseChunks lib (chunks.flatMap Chunk.bytes ++ rest) found = .ok found')
    (hend : ∀ c ∈ chunks, ¬ c.IsEnd) :
    (∀ c ∈ chunks, c.Accepted lib) ∧ ∃ mid, parseChunks lib rest mid = .ok found' := by
  induction chunks generalizing found with
  | nil => exact ⟨nofun, found, h⟩
  | cons c chunks ih =>
    rw [List.flatMap_cons, List.append_assoc] at h
    have haccepted : c.Accepted lib := by
      rw [parseChunks_eq] at h
      split at h
      · cases h
      · exact (accepted_of_readChunk ‹_›).1
      · exact (accepted_of_readChunk ‹_›).1
    rw [parseChunks_cons haccepted (hend c (by simp))] at h
    obtain ⟨mid, -, h⟩ := exists_of_bind_eq_ok h
    obtain ⟨hrest, hmid⟩ := ih h fun c hc => hend c (by simp [hc])
    refine ⟨fun c' hc' => ?_, hmid⟩
    rcases List.mem_cons.mp hc' with rfl | hc'
    · exact haccepted
    · exact hrest c' hc'

/-- A file that is read to its end is a row of chunks up to the end of the image, or up to less than
the length of one more chunk. -/
theorem chunks_of_parseChunks {found found' : FoundCards}
    (h : parseChunks lib rest found = .ok found') :
    ∃ (chunks : List Chunk) (tail : Bytes), rest = chunks.flatMap Chunk.bytes ++ tail ∧
      (∀ c ∈ chunks, ¬ c.IsEnd) ∧
      (tail.length < 4 ∨ ∃ (last : Chunk) (trailing : Bytes), last.IsEnd ∧
        tail = last.bytes ++ trailing) := by
  -- the induction follows the reader: each chunk that it takes is put in front of the row
  induction rest, found using parseChunks.induct lib with
  | case1 rest found e hread =>
    rw [parseChunks_eq, hread] at h
    cases h
  | case2 rest found hread =>
    refine ⟨[], rest, rfl, nofun, .inl ?_⟩
    by_contra hlong
    obtain ⟨read, hexact⟩ : ∃ read, readExact 4 rest = some read :=
      ⟨_, if_pos (by omega)⟩
    rw [readChunk, hexact] at hread
    obtain ⟨⟨typeBuf, rest₂⟩, -, hread⟩ := exists_of_bind_eq_ok hread
    simp only at hread
    split at hread
    · cases hread
    · obtain ⟨⟨data, rest₃⟩, -, hread⟩ := exists_of_bind_eq_ok hread
      obtain ⟨⟨crcBuf, rest₄⟩, -, hread⟩ := exists_of_bind_eq_ok hread
      simp only at hread
      split at hread <;> cases hread
  | case3 rest found typeBuf data rest' hread hend =>
    obtain ⟨lenBuf, crcBuf, hlen, htype, hdata, hcrc, -, -, rfl⟩ := readChunk_eq_some lib hread
    exact ⟨[], _, rfl, nofun, .inr ⟨⟨lenBuf, typeBuf, data, crcBuf, hlen, htype, hcrc, hdata⟩,
      rest', hend, rfl⟩⟩
  | case4 rest found typeBuf data rest' hread hend e htake =>
    rw [parseChunks_eq, hread] at h
    simp only [if_neg hend, htake] at h
    cases h
  | case5 rest found typeBuf data rest' hread hend found₁ htake ih =>
    rw [parseChunks_eq, hread] at h
    simp only [if_neg hend, htake] at h
    obtain ⟨chunks, tail, hrest, hends, htail⟩ := ih h
    obtain ⟨lenBuf, crcBuf, hlen, htype, hdata, hcrc, -, -, rfl⟩ := readChunk_eq_some lib hread
    refine ⟨⟨lenBuf, typeBuf, data, crcBuf, hlen, htype, hcrc, hdata⟩ :: chunks, tail, ?_, ?_,
      htail⟩
    · simp [hrest, Chunk.bytes]
    · intro c hc
      rcases List.mem_cons.mp hc with rfl | hc
      · exact hend
      · exact hends c hc

/-! ## The walk of the writer -/

theorem encodeChunks_eq (encoded : String) (rest output : Bytes) :
    encodeChunks lib encoded rest output =
      match copyChunk rest with
      | .error e => .error e
      | .ok none => .ok output
      | .ok (some (header, data, crc, rest')) =>
        if holdsCard (header.drop 4) data then encodeChunks lib encoded rest' output
        else if chunkType (header.drop 4) = "IEND" then
          .ok (writeTextChunk lib (writeTextChunk lib output "chara" encoded) "ccv3" encoded ++
            header ++ data ++ crc)
        else encodeChunks lib encoded rest' (output ++ header ++ data ++ crc) := by
  rw [encodeChunks]
  split <;> rename_i hread <;> simp only [hread]

theorem encodeChunks_of_lt (h : rest.length < 8) (encoded : String) (output : Bytes) :
    encodeChunks lib encoded rest output = .ok output := by
  rw [encodeChunks_eq, copyChunk_of_lt h]

theorem encodeChunks_cons (hend : ¬ c.IsEnd) (encoded : String) (rest output : Bytes) :
    encodeChunks lib encoded (c.bytes ++ rest) output =
      encodeChunks lib encoded rest (if c.holdsCard then output else output ++ c.bytes) := by
  rw [encodeChunks_eq, copyChunk_bytes]
  simp only [drop_header]
  rw [if_neg (show ¬ chunkType c.typeBuf = "IEND" from hend)]
  show (if c.holdsCard = true then _ else _) = _
  cases c.holdsCard
  · simp [Chunk.bytes]
  · rfl

/-- The writer keeps the chunks without cards. -/
theorem encodeChunks_flatMap (hend : ∀ c ∈ chunks, ¬ c.IsEnd) (encoded : String)
    (rest output : Bytes) :
    encodeChunks lib encoded (chunks.flatMap Chunk.bytes ++ rest) output =
      encodeChunks lib encoded rest
        (output ++ (chunks.filter (!·.holdsCard)).flatMap Chunk.bytes) := by
  induction chunks generalizing output with
  | nil => simp
  | cons c chunks ih =>
    rw [List.flatMap_cons, List.append_assoc, encodeChunks_cons (hend c (by simp)),
      ih fun c hc => hend c (by simp [hc])]
    cases hcard : c.holdsCard <;> simp [hcard]

theorem not_holdsCard_of_isEnd (h : c.IsEnd) : c.holdsCard = false := by
  have htype : (chunkType c.typeBuf == "tEXt") = false := by
    rw [show chunkType c.typeBuf = "IEND" from h]
    decide
  rw [Chunk.holdsCard, holdsCard, htype, Bool.false_and]

theorem encodeChunks_end (hend : c.IsEnd) (encoded : String) (rest output : Bytes) :
    encodeChunks lib encoded (c.bytes ++ rest) output =
      .ok (output ++ textChunk lib "chara" encoded ++ textChunk lib "ccv3" encoded ++ c.bytes) := by
  rw [encodeChunks_eq, copyChunk_bytes]
  simp only [drop_header]
  rw [if_neg (by simpa [Chunk.holdsCard] using not_holdsCard_of_isEnd hend),
    if_pos (show chunkType c.typeBuf = "IEND" from hend)]
  simp [writeTextChunk, Chunk.bytes]

/-! ## The new cards -/

/-- The text of a card. -/
def cardText (lib : CardLibrary) (raw : Json) : String := lib.encode (lib.toVec raw)

def textData (keyword text : String) : Bytes := utf8 keyword ++ 0 :: utf8 text

theorem length_u32ToBeBytes (n : ℕ) : (u32ToBeBytes n).length = 4 := length_bigEndian 4 n

theorem fromBeBytes_u32ToBeBytes (h : n < 2 ^ 32) : fromBeBytes (u32ToBeBytes n) = n :=
  ofBigEndian_bigEndian (k := 4) h

/-- A text chunk that is written, as long as its length fits into 32 bits. -/
def writtenChunk (lib : CardLibrary) (keyword text : String)
    (h : (textData keyword text).length < 2 ^ 32) : Chunk where
  lenBuf := u32ToBeBytes (textData keyword text).length
  typeBuf := textType
  data := textData keyword text
  crcBuf := u32ToBeBytes (lib.crc32 (textType ++ textData keyword text)).toNat
  length_lenBuf := length_u32ToBeBytes _
  length_typeBuf := by decide
  length_crcBuf := length_u32ToBeBytes _
  length_data := (fromBeBytes_u32ToBeBytes h).symm

variable {keyword text : String} (h : (textData keyword text).length < 2 ^ 32)
include h

theorem bytes_writtenChunk :
    (writtenChunk lib keyword text h).bytes = textChunk lib keyword text := rfl

omit h in
theorem chunkType_textType : chunkType textType = "tEXt" := by
  rw [chunkType, textType, fromUtf8_utf8]
  rfl

theorem not_isEnd_writtenChunk : ¬ (writtenChunk lib keyword text h).IsEnd := by
  change ¬ chunkType textType = "IEND"
  rw [chunkType_textType]
  decide

theorem writtenChunk_accepted (hsize : (textData keyword text).length ≤ maxJsonBytes) :
    (writtenChunk lib keyword text h).Accepted lib :=
  ⟨hsize, fromBeBytes_u32ToBeBytes (UInt32.toNat_lt _)⟩

omit h

theorem splitTextChunk_textData {keyword : String} (h : 0 ∉ utf8 keyword) (text : String) :
    splitTextChunk (textData keyword text) = some (keyword, text) := by
  have hnul : (textData keyword text).findIdx? (· == 0) = some (utf8 keyword).length := by
    rw [textData, List.findIdx?_append, List.findIdx?_eq_none_iff.mpr]
    · simp [List.findIdx?_cons]
    · intro byte hbyte
      exact beq_eq_false_iff_ne.mpr fun heq => h (heq ▸ hbyte)
  rw [splitTextChunk, hnul]
  simp [textData, fromUtf8_utf8]

theorem trim_eq_self {s : String} (h : ∀ c ∈ s.toList, isWhitespace c = false) : trim s = s := by
  have hdrop : ∀ l : List Char, (∀ c ∈ l, isWhitespace c = false) →
      l.dropWhile isWhitespace = l := by
    intro l hl
    cases l with
    | nil => rfl
    | cons c l => exact List.dropWhile_cons_of_neg (by simp [hl c])
  rw [trim, trimText, hdrop _ h, List.rdropWhile, hdrop _ (by simpa using h), List.reverse_reverse,
    String.ofList_toList]

theorem isWhitespace_symbol {c : Char} (h : c ∈ Base64.alphabet ∨ c = '=') :
    isWhitespace c = false := by
  rcases h with h | rfl
  · have hall : (Base64.alphabet.all fun c => !isWhitespace c) = true := by decide +kernel
    simpa using List.all_eq_true.mp hall c h
  · decide

theorem ascii_symbol {c : Char} (h : c ∈ Base64.alphabet ∨ c = '=') : c.toNat < 128 := by
  rcases h with h | rfl
  · have hall : (Base64.alphabet.all fun c => decide (c.toNat < 128)) = true := by decide +kernel
    simpa using List.all_eq_true.mp hall c h
  · decide

/-- The text of a card is read back. -/
theorem decodeCardText_cardText {raw : Json} (hjson : lib.fromSlice (lib.toVec raw) = .ok raw)
    (hsize : (lib.toVec raw).length ≤ maxJsonBytes) :
    decodeCardText lib (cardText lib raw) = .ok raw := by
  have htrim : trim (cardText lib raw) = cardText lib raw :=
    trim_eq_self fun c hc => isWhitespace_symbol (lib.mem_encode _ c hc)
  rw [decodeCardText, htrim, cardText, lib.decode_encode]
  simp only
  rw [if_neg (by omega), hjson]

theorem length_cardText (raw : Json) :
    (utf8 (cardText lib raw)).length = 4 * (((lib.toVec raw).length + 2) / 3) := by
  have hascii : ∀ c ∈ (cardText lib raw).toList, c.toNat < 128 :=
    fun c hc => ascii_symbol (lib.mem_encode _ c hc)
  have hutf8 : (utf8 (cardText lib raw)).length = (cardText lib raw).utf8ByteSize := rfl
  rw [hutf8, utf8ByteSize_of_ascii hascii, cardText, lib.length_encode]

theorem length_textData (lib : CardLibrary) (raw : Json) (keyword : String) :
    (textData keyword (cardText lib raw)).length =
      (utf8 keyword).length + 1 + 4 * (((lib.toVec raw).length + 2) / 3) := by
  rw [textData, List.length_append, List.length_cons, length_cardText]
  omega

theorem takeChunk_chara (text : String) (found : FoundCards) :
    takeChunk lib textType (textData "chara" text) found =
      (decodeCardText lib text).map fun raw => { found with chara := some raw } := by
  rw [takeChunk, if_pos chunkType_textType, splitTextChunk_textData (by decide)]
  rfl

theorem takeChunk_ccv3 (text : String) (found : FoundCards) :
    takeChunk lib textType (textData "ccv3" text) found =
      (decodeCardText lib text).map fun raw => { found with ccv3 := some raw } := by
  rw [takeChunk, if_pos chunkType_textType, splitTextChunk_textData (by decide)]
  rfl

/-! ## The round trip -/

/-- The chunks of the file lead to an end of the image. -/
def EndsImage (png : Bytes) : Prop :=
  ∃ (chunks : List Chunk) (last : Chunk) (trailing : Bytes),
    png = pngSig ++ (chunks.flatMap Chunk.bytes ++ (last.bytes ++ trailing)) ∧
      (∀ c ∈ chunks, ¬ c.IsEnd) ∧ last.IsEnd

/-- The card that a walk has come to. -/
def FoundCards.card (found : FoundCards) : Option Json := found.ccv3 <|> found.chara

theorem parsePngCard_append :
    parsePngCard lib (pngSig ++ rest) =
      parseChunks lib rest {} >>= fun found =>
        match found.card with
        | some raw => .ok (parsedFromValue lib raw "png" [])
        | none =>
          .error (.badRequest "PNG_CARD_MISSING"
            "PNG does not contain ccv3 or chara metadata") := by
  have hsig : pngSig.isPrefixOf (pngSig ++ rest) = true := by simp
  rw [parsePngCard, hsig, List.drop_left]
  simp only [Bool.not_true, Bool.false_eq_true, if_false]
  cases parseChunks lib rest {} with
  | error e => rfl
  | ok found =>
    obtain ⟨chara, ccv3⟩ := found
    cases ccv3 <;> cases chara <;> rfl

theorem encodePngWithCard_append (raw : Json) :
    encodePngWithCard lib (pngSig ++ rest) raw =
      encodeChunks lib (cardText lib raw) rest pngSig := by
  have hsig : pngSig.isPrefixOf (pngSig ++ rest) = true := by simp
  rw [encodePngWithCard, hsig, List.drop_left]
  rfl

theorem exists_rest_of_parsePngCard {png : Bytes} {card : ParsedCard}
    (h : parsePngCard lib png = .ok card) :
    ∃ rest found, png = pngSig ++ rest ∧ parseChunks lib rest {} = .ok found := by
  unfold parsePngCard at h
  split at h
  · cases h
  · rename_i hsig
    have hpre : pngSig <+: png := by simpa using hsig
    obtain ⟨rest, rfl⟩ := hpre
    rw [List.drop_left] at h
    obtain ⟨found, hfound, -⟩ := exists_of_bind_eq_ok h
    exact ⟨rest, found, rfl, hfound⟩

/-- The chunks that are kept hold no cards, and are as good as they were. -/
theorem parseChunks_kept (haccepted : ∀ c ∈ chunks, c.Accepted lib) (hend : ∀ c ∈ chunks, ¬ c.IsEnd)
    (rest : Bytes) :
    parseChunks lib ((chunks.filter (!·.holdsCard)).flatMap Chunk.bytes ++ rest) {} =
      parseChunks lib rest {} :=
  parseChunks_flatMap (fun c hc => haccepted c (List.mem_of_mem_filter hc))
    (fun c hc => hend c (List.mem_of_mem_filter hc))
    (fun c hc => by simpa using (List.mem_filter.mp hc).2) rest {}

/-- A file without an end of the image loses its cards. -/
theorem parse_encode_of_no_end {tail : Bytes} (haccepted : ∀ c ∈ chunks, c.Accepted lib)
    (hend : ∀ c ∈ chunks, ¬ c.IsEnd) (htail : tail.length < 4) (raw : Json) :
    ∃ out, encodePngWithCard lib (pngSig ++ (chunks.flatMap Chunk.bytes ++ tail)) raw = .ok out ∧
      parsePngCard lib out =
        .error (.badRequest "PNG_CARD_MISSING" "PNG does not contain ccv3 or chara metadata") := by
  refine ⟨pngSig ++ (chunks.filter (!·.holdsCard)).flatMap Chunk.bytes, ?_, ?_⟩
  · rw [encodePngWithCard_append, encodeChunks_flatMap hend, encodeChunks_of_lt (by omega)]
  · have hwalk := parseChunks_kept haccepted hend []
    rw [List.append_nil] at hwalk
    rw [parsePngCard_append, hwalk, parseChunks_of_lt (by simp)]
    rfl

section Written

variable {chunks : List Chunk} {last : Chunk}

/-- What is written for a file with an end of the image. -/
theorem encode_of_end (lib : CardLibrary) (raw : Json) (hend : ∀ c ∈ chunks, ¬ c.IsEnd)
    (hlast : last.IsEnd) (trailing : Bytes) :
    encodePngWithCard lib
        (pngSig ++ (chunks.flatMap Chunk.bytes ++ (last.bytes ++ trailing))) raw =
      .ok (pngSig ++ ((chunks.filter (!·.holdsCard)).flatMap Chunk.bytes ++
        (textChunk lib "chara" (cardText lib raw) ++
          (textChunk lib "ccv3" (cardText lib raw) ++ (last.bytes ++ []))))) := by
  rw [encodePngWithCard_append, encodeChunks_flatMap hend, encodeChunks_end hlast]
  simp

/-- A small card is read back from what is written. -/
theorem parse_of_small {raw : Json} (haccepted : ∀ c ∈ chunks, c.Accepted lib)
    (hend : ∀ c ∈ chunks, ¬ c.IsEnd) (hlast : last.Accepted lib) (hlastEnd : last.IsEnd)
    (hjson : lib.fromSlice (lib.toVec raw) = .ok raw) (hsmall : (lib.toVec raw).length ≤ 1572858) :
    parsePngCard lib (pngSig ++ ((chunks.filter (!·.holdsCard)).flatMap Chunk.bytes ++
        (textChunk lib "chara" (cardText lib raw) ++
          (textChunk lib "ccv3" (cardText lib raw) ++ (last.bytes ++ []))))) =
      .ok (parsedFromValue lib raw "png" []) := by
  have hchara := length_textData lib raw "chara"
  have hccv3 := length_textData lib raw "ccv3"
  have hkeyword : (utf8 "chara").length = 5 := rfl
  have hkeyword' : (utf8 "ccv3").length = 4 := rfl
  have hmax : maxJsonBytes = 2097152 := rfl
  have hdecode := decodeCardText_cardText hjson (by omega)
  have hfits : (textData "chara" (cardText lib raw)).length < 2 ^ 32 := by omega
  have hfits' : (textData "ccv3" (cardText lib raw)).length < 2 ^ 32 := by omega
  rw [parsePngCard_append, parseChunks_kept haccepted hend, ← bytes_writtenChunk hfits,
    parseChunks_cons (writtenChunk_accepted _ (by omega)) (not_isEnd_writtenChunk _)]
  -- the first card is found, then the second one, then the end
  change takeChunk lib textType (textData "chara" (cardText lib raw)) {} >>= _ >>= _ = _
  rw [takeChunk_chara, hdecode, ← bytes_writtenChunk hfits']
  change parseChunks lib _ _ >>= _ = _
  rw [parseChunks_cons (writtenChunk_accepted _ (by omega)) (not_isEnd_writtenChunk _)]
  change takeChunk lib textType (textData "ccv3" (cardText lib raw)) _ >>= _ >>= _ = _
  rw [takeChunk_ccv3, hdecode]
  change parseChunks lib _ _ >>= _ = _
  rw [parseChunks_end hlast hlastEnd]
  rfl

/-- A large card makes a chunk that is refused. -/
theorem parse_of_large {raw : Json} (haccepted : ∀ c ∈ chunks, c.Accepted lib)
    (hend : ∀ c ∈ chunks, ¬ c.IsEnd) (hsize : (lib.toVec raw).length ≤ maxJsonBytes)
    (hlarge : 1572858 < (lib.toVec raw).length) (rest : Bytes) :
    parsePngCard lib (pngSig ++ ((chunks.filter (!·.holdsCard)).flatMap Chunk.bytes ++
        (textChunk lib "chara" (cardText lib raw) ++ rest))) =
      .error (.badRequest "PNG_CHUNK_TOO_LARGE" "PNG text chunk too large") := by
  have hchara := length_textData lib raw "chara"
  have hkeyword : (utf8 "chara").length = 5 := rfl
  have hmax : maxJsonBytes = 2097152 := rfl
  have hfits : (textData "chara" (cardText lib raw)).length < 2 ^ 32 := by omega
  rw [parsePngCard_append, parseChunks_kept haccepted hend, ← bytes_writtenChunk hfits,
    parseChunks_eq, readChunk_bytes]
  have hover : maxJsonBytes < (writtenChunk lib "chara" (cardText lib raw) hfits).data.length := by
    change maxJsonBytes < (textData "chara" (cardText lib raw)).length
    omega
  rw [if_pos hover]
  rfl

end Written

/-- **When a card comes back.** A card that is written into an image that was accepted is read back
exactly if the chunks of the image lead to an end and the card has at most 1572858 bytes. -/
theorem card_round_trip (lib : CardLibrary) {png : Bytes} {raw : Json} {card : ParsedCard}
    (hjson : lib.fromSlice (lib.toVec raw) = .ok raw)
    (hsize : (lib.toVec raw).length ≤ maxJsonBytes) (hpng : parsePngCard lib png = .ok card) :
    (∃ out card', encodePngWithCard lib png raw = .ok out ∧ parsePngCard lib out = .ok card' ∧
      card'.raw = raw) ↔ EndsImage png ∧ (lib.toVec raw).length ≤ 1572858 := by
  obtain ⟨rest, found, rfl, hfound⟩ := exists_rest_of_parsePngCard hpng
  constructor
  · rintro ⟨out, card', hout, hcard, -⟩
    obtain ⟨chunks, tail, rfl, hend, htail⟩ := chunks_of_parseChunks hfound
    obtain ⟨haccepted, mid, hmid⟩ := accepted_of_parseChunks hfound hend
    rcases htail with htail | ⟨last, trailing, hlast, rfl⟩
    · -- without an end nothing is written, and no card is found
      obtain ⟨out', hout', hmissing⟩ := parse_encode_of_no_end haccepted hend htail raw
      rw [hout] at hout'
      cases hout'
      rw [hcard] at hmissing
      cases hmissing
    · refine ⟨⟨chunks, last, trailing, rfl, hend, hlast⟩, ?_⟩
      by_contra hlarge
      rw [encode_of_end lib raw hend hlast] at hout
      cases hout
      rw [parse_of_large haccepted hend hsize (by omega)] at hcard
      cases hcard
  · rintro ⟨⟨chunks, last, trailing, hsplit, hend, hlast⟩, hsmall⟩
    obtain rfl := List.append_cancel_left hsplit
    obtain ⟨haccepted, mid, hmid⟩ := accepted_of_parseChunks hfound hend
    have hlastAccepted : last.Accepted lib := by
      rw [parseChunks_eq] at hmid
      split at hmid
      · cases hmid
      · exact (accepted_of_readChunk ‹_›).1
      · exact (accepted_of_readChunk ‹_›).1
    exact ⟨_, _, encode_of_end lib raw hend hlast trailing,
      parse_of_small haccepted hend hlastAccepted hlast hjson hsmall, rfl⟩

/-! ## A card that is lost -/

section Lost

/-- One bit of the checksum. -/
def crcShift (r : UInt32) : UInt32 := if r &&& 1 = 1 then r >>> 1 ^^^ 0xEDB88320 else r >>> 1

/-- The card is the text in quotes. -/
def readString (s : String) : Except String Json :=
  let inner := String.ofList (s.toList.drop 1).dropLast
  if (Json.string inner).text = s then .ok (.string inner) else .error "expected value"

/-- The libraries, of which JSON is read for strings without escapes, and SHA-256 is known for two
cards. -/
def textCards : CardLibrary where
  sha256Hex bytes :=
    if bytes = utf8 "\"a\"" then "ac8d8342bbb2362d13f0a559a3621bb407011368895164b628a54f7fc33fc43c"
    else if bytes = utf8 "\"aaa\"" then
      "ee218b66abaadc6ef42bcb45285bc02cf0102e8a5caef355765e28540eeb8bea"
    else ""
  crc32 bytes := ~~~ bytes.foldl (fun r byte => crcShift^[8] (r ^^^ byte.toUInt32)) 0xFFFFFFFF
  toVec raw := utf8 raw.text
  fromSlice bytes := (fromUtf8 bytes).elim (.error "invalid unicode code point") readString
  encode bytes := String.ofList (Base64.encode bytes)
  decode text := Base64.decode text.toList
  decode_encode bytes := by rw [String.toList_ofList, Base64.decode_encode]
  length_encode bytes := by rw [String.toList_ofList, Base64.length_encode]
  mem_encode bytes c hc := Base64.mem_encode (by simpa using hc)

theorem fromSlice_toVec_string (s : String) :
    textCards.fromSlice (textCards.toVec (.string s)) = .ok (.string s) := by
  change (fromUtf8 (utf8 (Json.string s).text)).elim _ readString = _
  have hinner : String.ofList ((Json.string s).text.toList.drop 1).dropLast = s := by
    simp [Json.text]
  rw [fromUtf8_utf8, Option.elim_some, readString, hinner, if_pos rfl]

def endChunk : Chunk where
  lenBuf := [0, 0, 0, 0]
  typeBuf := utf8 "IEND"
  data := []
  crcBuf := [174, 66, 96, 130]
  length_lenBuf := rfl
  length_typeBuf := rfl
  length_crcBuf := rfl
  length_data := rfl

theorem endChunk_accepted : endChunk.Accepted textCards := ⟨Nat.zero_le _, by decide +kernel⟩

theorem endChunk_isEnd : endChunk.IsEnd := by
  change (fromUtf8 (utf8 "IEND")).getD "" = "IEND"
  rw [fromUtf8_utf8]
  rfl

/-- An image that holds a small card. -/
def smallImage : Bytes :=
  pngSig ++ (([].filter (!·.holdsCard)).flatMap Chunk.bytes ++
    (textChunk textCards "chara" (cardText textCards (.string "a")) ++
      (textChunk textCards "ccv3" (cardText textCards (.string "a")) ++ (endChunk.bytes ++ []))))

theorem parse_smallImage :
    parsePngCard textCards smallImage =
      .ok (parsedFromValue textCards (.string "a") "png" []) :=
  parse_of_small nofun nofun endChunk_accepted endChunk_isEnd (fromSlice_toVec_string "a")
    (by decide)

/-- The chunks of the small image. -/
def smallChunks : List Chunk :=
  [writtenChunk textCards "chara" (cardText textCards (.string "a")) (by decide +kernel),
    writtenChunk textCards "ccv3" (cardText textCards (.string "a")) (by decide +kernel)]

theorem not_isEnd_smallChunks : ∀ c ∈ smallChunks, ¬ c.IsEnd := by
  intro c hc
  simp only [smallChunks, List.mem_cons, List.not_mem_nil, or_false] at hc
  rcases hc with rfl | rfl <;> exact not_isEnd_writtenChunk _

theorem smallImage_eq :
    smallImage = pngSig ++ (smallChunks.flatMap Chunk.bytes ++ (endChunk.bytes ++ [])) := by
  simp [smallImage, smallChunks, bytes_writtenChunk]

/-- A card of `n + 2` bytes. -/
def textCard (n : ℕ) : Json := .string (String.ofList (List.replicate n 'a'))

theorem length_textCard (n : ℕ) : (textCards.toVec (textCard n)).length = n + 2 := by
  have hutf8 : (textCards.toVec (textCard n)).length = (textCard n).text.utf8ByteSize := rfl
  have htext : (textCard n).text.toList = '"' :: (List.replicate n 'a' ++ ['"']) := by
    simp [textCard, Json.text]
  rw [hutf8, utf8ByteSize_of_ascii, htext]
  · simp
  · intro c hc
    rw [htext] at hc
    simp only [List.mem_cons, List.mem_append, List.mem_replicate, List.not_mem_nil, or_false] at hc
    rcases hc with rfl | ⟨-, rfl⟩ | rfl <;> decide

theorem fromSlice_toVec_textCard (n : ℕ) :
    textCards.fromSlice (textCards.toVec (textCard n)) = .ok (textCard n) :=
  fromSlice_toVec_string _

theorem smallChunks_accepted : ∀ c ∈ smallChunks, c.Accepted textCards := by
  have hparse := parse_smallImage
  rw [smallImage_eq, parsePngCard_append] at hparse
  obtain ⟨found, hfound, -⟩ := exists_of_bind_eq_ok hparse
  exact (accepted_of_parseChunks hfound not_isEnd_smallChunks).1

/-- A large card is written into the image, and the image is then refused. -/
theorem parse_encode_textCard (hlarge : 1572858 < n + 2) (hsize : n + 2 ≤ maxJsonBytes) :
    ∃ out, encodePngWithCard textCards smallImage (textCard n) = .ok out ∧
      parsePngCard textCards out =
        .error (.badRequest "PNG_CHUNK_TOO_LARGE" "PNG text chunk too large") := by
  have hlength := length_textCard n
  have hencode := encode_of_end textCards (textCard n) not_isEnd_smallChunks
    endChunk_isEnd []
  rw [← smallImage_eq] at hencode
  exact ⟨_, hencode, parse_of_large smallChunks_accepted not_isEnd_smallChunks (by omega)
    (by omega) _⟩

/-- A card that is under the limit of the reader is lost: the image that it is written into is
refused. -/
theorem large_card_lost :
    textCards.fromSlice (textCards.toVec (textCard 1572857)) = .ok (textCard 1572857) ∧
    (textCards.toVec (textCard 1572857)).length ≤ maxJsonBytes ∧
    parsePngCard textCards smallImage =
      .ok (parsedFromValue textCards (.string "a") "png" []) ∧
    ∃ out, encodePngWithCard textCards smallImage (textCard 1572857) = .ok out ∧
      parsePngCard textCards out =
        .error (.badRequest "PNG_CHUNK_TOO_LARGE" "PNG text chunk too large") := by
  have hsize : 1572857 + 2 ≤ maxJsonBytes := by decide
  exact ⟨fromSlice_toVec_textCard _, (length_textCard 1572857).trans_le hsize, parse_smallImage,
    parse_encode_textCard (by decide) hsize⟩

/-- Another small card comes back from the image. -/
theorem card_round_trip_small :
    ∃ out card', encodePngWithCard textCards smallImage (textCard 3) = .ok out ∧
      parsePngCard textCards out = .ok card' ∧ card'.raw = textCard 3 := by
  have hlength := length_textCard 3
  have hmax : maxJsonBytes = 2097152 := rfl
  exact (card_round_trip textCards (fromSlice_toVec_textCard 3) (by omega) parse_smallImage).mpr
    ⟨⟨smallChunks, endChunk, [], smallImage_eq, not_isEnd_smallChunks, endChunk_isEnd⟩, by omega⟩

end Lost

end CardPng

end ImBridge
