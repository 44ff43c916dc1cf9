import ImBridge.Domain.Text
import ImBridge.Encoding.Slices

/-!
# Redaction of error texts

Details of errors are shown only after credentials, tokens and paths in them were replaced. A text
is rewritten in several passes, each of which computes byte offsets and edits the text in place; an
offset that is not a boundary of the text makes the bridge panic, which is `none` here.

Loops have a bound on the number of their rounds, and running out of rounds is `none` as well.

## Main definitions

* `redactKeyValue`: the values of sensitive keys
* `redactUrlUserinfo`: the credentials in URLs
* `redactTokenLike`: long words of letters and digits
* `redactSensitivePaths`: paths on a server
* `redactDetail`: all of these, and texts that are not shown at all
-/

namespace ImBridge

open Encoding
open String (utf8Len)

namespace Redaction

abbrev Text := List Char

def sensitiveKeys : List String :=
  ["authorization", "cookie", "x-csrf-token", "csrf-token", "csrf_token", "csrf", "bot-token",
    "bot_token", "bot token", "api-key", "api key", "api_key", "apikey", "access-token",
    "access_token", "provider-key", "provider_key", "password", "token", "secret"]

def redacted : Text := "[REDACTED]".toList

def pathRedacted : Text := "[PATH_REDACTED]".toList

/-- The offset of the first of some characters from an offset on, or the length of the text. -/
def findFrom (p : Char → Bool) (text : Text) (start : ℕ) : Option ℕ := do
  match offsetOf? (startsWithChar p) (← sliceFrom? text start) with
  | some relative => return start + relative
  | none => return utf8Len text

/-! ## Values of sensitive keys -/

def isWordChar (c : Char) : Bool := c.isAlphanum || c = '_'

def isQuote (c : Char) : Bool := c = '"' || c = '\''

def findCaseInsensitive (haystack : Text) (needle : String) : Option ℕ :=
  offsetOf? (fun rest => (needle.toList.map asciiLowercase).isPrefixOf rest)
    (haystack.map asciiLowercase)

def eqIgnoreAsciiCase (a b : Text) : Bool := a.map asciiLowercase == b.map asciiLowercase

def isKeyBoundary (text : Text) (keyStart keyEnd : ℕ) : Option Bool := do
  let startsInsideWord := (← sliceTo? text keyStart).getLast?.any isWordChar
  let endsInsideWord := (← sliceFrom? text keyEnd).head?.any isWordChar
  return !startsInsideWord && !endsInsideWord

/-- The loop goes on for as long as there is white space. -/
def skipWhitespace (text : Text) (offset : ℕ) : Option ℕ := do
  return offset + utf8Len ((← sliceFrom? text offset).takeWhile isWhitespace)

/-- A quote at the offset, and the offset after it. -/
def skipQuote (text : Text) (cursor : ℕ) : Option (ℕ × Option Char) := do
  match (← sliceFrom? text cursor).head?.filter isQuote with
  | some quote => return (cursor + quote.utf8Size, some quote)
  | none => return (cursor, none)

/-- The offset after a quote that closes a key, and after white space. -/
def skipKeyQuote (text : Text) (cursor : ℕ) : Option ℕ := do
  match ← skipQuote text cursor with
  | (cursor, some _) => skipWhitespace text cursor
  | (cursor, none) => return cursor

/-- Where the value of a key starts, and the quote before it, if there is a value. -/
def locateValueStart (text : Text) (keyEnd : ℕ) : Option (Option (ℕ × Option Char)) := do
  let cursor ← skipKeyQuote text (← skipWhitespace text keyEnd)
  match (← sliceFrom? text cursor).head? with
  | none => return none
  | some delimiter =>
    if delimiter = ':' ∨ delimiter = '=' then do
      let cursor ← skipWhitespace text (cursor + delimiter.utf8Size)
      return some (← skipQuote text cursor)
    else return none

def isValueEnd (c : Char) : Bool :=
  isWhitespace c || [',', ';', '&', '#', '}', ']', '"', '\''].contains c

def scanUnquotedEnd (text : Text) (valueStart : ℕ) : Option ℕ := do
  return valueStart + utf8Len ((← sliceFrom? text valueStart).takeWhile fun c => !isValueEnd c)

def scanLineEnd (text : Text) (valueStart : ℕ) : Option ℕ :=
  findFrom (fun c => c = '\r' || c = '\n') text valueStart

/-- The offset of the closing quote, which is not escaped. -/
def closingQuote (quote : Char) : Bool → Text → Option ℕ
  | _, [] => none
  | escaped, c :: text =>
    if escaped then (closingQuote quote false text).map (c.utf8Size + ·)
    else if c = '\\' then (closingQuote quote true text).map (c.utf8Size + ·)
    else if c = quote then some 0
    else (closingQuote quote false text).map (c.utf8Size + ·)

def scanQuotedEnd (text : Text) (valueStart : ℕ) (quote : Char) : Option ℕ := do
  match closingQuote quote false (← sliceFrom? text valueStart) with
  | some index => return valueStart + index
  | none => return utf8Len text

def authorizationValueEnd (text : Text) (valueStart firstEnd : ℕ) : Option ℕ := do
  let scheme ← slice? text valueStart firstEnd
  if !eqIgnoreAsciiCase scheme "bearer".toList && !eqIgnoreAsciiCase scheme "basic".toList then
    return firstEnd
  else do
    let credentialStart ← skipWhitespace text firstEnd
    let credentialEnd ← scanUnquotedEnd text credentialStart
    return if credentialStart < credentialEnd then credentialEnd else firstEnd

def scanValueEnd (text : Text) (key : String) (valueStart : ℕ) : Option Char → Option ℕ
  | some quote => scanQuotedEnd text valueStart quote
  | none =>
    if eqIgnoreAsciiCase key.toList "cookie".toList then scanLineEnd text valueStart
    else do
      let firstEnd ← scanUnquotedEnd text valueStart
      if eqIgnoreAsciiCase key.toList "authorization".toList then
        authorizationValueEnd text valueStart firstEnd
      else return firstEnd

/-- The text once the value of a key is replaced, and where the search for keys goes on. -/
def redactValue (text : Text) (key : String) (keyEnd : ℕ) : Option (Text × ℕ) := do
  match ← locateValueStart text keyEnd with
  | none => return (text, keyEnd)
  | some (valueStart, valueQuote) =>
    let valueEnd ← scanValueEnd text key valueStart valueQuote
    if valueEnd ≤ valueStart then return (text, valueStart + 1)
    else return (← replaceRange? redacted text (valueStart, valueEnd),
      valueStart + utf8Len redacted)

/-- The loop of `redact_key_value`, with a bound on its rounds. -/
def redactKeyValueFrom (key : String) : ℕ → Text → ℕ → Option Text
  | 0, _, _ => none
  | rounds + 1, text, searchOffset =>
    if searchOffset < utf8Len text then do
      match findCaseInsensitive (← sliceFrom? text searchOffset) key with
      | none => return text
      | some relative =>
        let keyStart := searchOffset + relative
        let keyEnd := keyStart + utf8Len key.toList
        if ← isKeyBoundary text keyStart keyEnd then do
          let (text, searchOffset) ← redactValue text key keyEnd
          redactKeyValueFrom key rounds text searchOffset
        else redactKeyValueFrom key rounds text keyEnd
    else return text

def redactKeyValue (text : Text) (key : String) : Option Text :=
  redactKeyValueFrom key (utf8Len text + 1) text 0

/-! ## Credentials in URLs -/

def isAuthorityEnd (c : Char) : Bool := isWhitespace c || c = '/' || isQuote c

/-- The text once the credentials of a URL are replaced, and where the search goes on. -/
def redactAuthority (text : Text) (authorityStart : ℕ) : Option (Text × ℕ) := do
  let authorityEnd ← findFrom isAuthorityEnd text authorityStart
  match offsetOf? (startsWithChar (· = '@')) (← slice? text authorityStart authorityEnd) with
  | none => return (text, authorityEnd)
  | some atOffset =>
    if 0 < atOffset then
      return (← replaceRange? redacted text (authorityStart, authorityStart + atOffset),
        authorityStart + utf8Len redacted + 1)
    else return (text, authorityEnd)

/-- The loop of `redact_url_userinfo`, with a bound on its rounds. -/
def redactUrlUserinfoFrom : ℕ → Text → ℕ → Option Text
  | 0, _, _ => none
  | rounds + 1, text, offset =>
    if offset < utf8Len text then do
      match offsetOf? ("://".toList.isPrefixOf ·) (← sliceFrom? text offset) with
      | none => return text
      | some relative => do
        let (text, offset) ← redactAuthority text (offset + relative + 3)
        redactUrlUserinfoFrom rounds text offset
    else return text

def redactUrlUserinfo (text : Text) : Option Text :=
  redactUrlUserinfoFrom (utf8Len text + 1) text 0

/-! ## Tokens -/

/-- The variables of the scan for tokens. -/
structure TokenScan where
  ranges : List (ℕ × ℕ) := []
  tokenStart : Option ℕ := none
  hasAlpha : Bool := false
  hasDigit : Bool := false

def isTokenChar (c : Char) : Bool := c.isAlphanum || c = '_' || c = '-'

def TokenScan.next (scan : TokenScan) (index : ℕ) (c : Char) : TokenScan :=
  if isTokenChar c then
    match scan.tokenStart with
    | none => { scan with tokenStart := some index, hasAlpha := c.isAlpha, hasDigit := c.isDigit }
    | some _ =>
      { scan with hasAlpha := scan.hasAlpha || c.isAlpha, hasDigit := scan.hasDigit || c.isDigit }
  else
    match scan.tokenStart with
    | none => scan
    | some start =>
      { scan with
        tokenStart := none
        ranges := if 32 ≤ index - start ∧ scan.hasAlpha ∧ scan.hasDigit then
          scan.ranges ++ [(start, index)] else scan.ranges }

/-- The scan of the rest of a text that starts at the offset, and of a character after its end. -/
def scanTokens (scan : TokenScan) (index : ℕ) : Text → TokenScan
  | [] => scan.next index '\x00'
  | c :: text => scanTokens (scan.next index c) (index + c.utf8Size) text

def redactTokenLike (text : Text) : Option Text :=
  replaceRanges? redacted text (scanTokens {} 0 text).ranges

/-! ## Paths -/

def isAlphabeticByte (b : UInt8) : Bool := (65 ≤ b && b ≤ 90) || (97 ≤ b && b ≤ 122)

def isAlphanumericByte (b : UInt8) : Bool := isAlphabeticByte b || (48 ≤ b && b ≤ 57)

/-- A slash or a backslash. -/
def isSlash (b : UInt8) : Bool := b = 47 || b = 92

/-- The bytes before the index end, at most with one that no path starts after. -/
def isPathBoundary (bytes : Bytes) (index : ℕ) : Bool :=
  index = 0 || (bytes[index - 1]?).all fun b => !isAlphanumericByte b && b ≠ 95 && !isSlash b

def isUncPath (rest : Bytes) : Bool :=
  match rest with
  | 92 :: 92 :: server =>
    let name := server.takeWhile fun b => !isSlash b
    match server.drop name.length with
    | _ :: share :: _ => name ≠ [] && !isSlash share && share ≠ 32 && share ≠ 9
    | _ => false
  | _ => false

def isDrivePath (rest : Bytes) : Bool :=
  match rest with
  | drive :: 58 :: slash :: _ => isAlphabeticByte drive && isSlash slash
  | _ => false

def unixRoots : List String :=
  ["/srv/", "/home/", "/var/", "/root/", "/opt/", "/etc/", "/users/", "/private/"]

def isUnixPath (rest : Bytes) : Bool :=
  unixRoots.any fun root => (bytesOf root.toList).isPrefixOf rest

/-- A path starts at the index. -/
def startsPath (bytes : Bytes) (index : ℕ) : Bool :=
  let rest := bytes.drop index
  (isDrivePath rest || isUncPath rest || isUnixPath rest) && isPathBoundary bytes index

def isPathEnd (c : Char) : Bool :=
  isWhitespace c || [',', ';', '&', '#', ')', ']', '}', '"', '\''].contains c

def pathEnd (text : Text) (index : ℕ) : Option ℕ := findFrom isPathEnd text index

/-- The indices at which paths start. -/
def pathStarts (text : Text) : List ℕ :=
  (List.range (bytesOf text).length).filter (startsPath (bytesOf text))

def pathRanges (text : Text) : Option (List (ℕ × ℕ)) :=
  (pathStarts text).mapM fun index => do return (index, ← pathEnd text index)

def redactSensitivePaths (text : Text) : Option Text := do
  replaceRanges? pathRedacted text (← pathRanges text)

end Redaction

open Redaction

/-- The text before paths are replaced in it. -/
def redactCredentials (input : Text) : Option Text := do
  let text ← sensitiveKeys.foldlM redactKeyValue input
  redactTokenLike (← redactUrlUserinfo text)

/-- The texts that are about a chat and not shown. -/
def isChatShape (text : Text) : Bool :=
  let lowered := String.ofList (text.map asciiLowercase)
  containsText "prompt" lowered || containsText "chat_metadata" lowered ||
    containsText "content_original" lowered || containsText "\"mes\"" lowered

/-- What of a detail is shown, unless the bridge panics. -/
def redactDetail (input : String) : Option (Option String) :=
  if isBlank input then return none
  else do
    let text ← redactSensitivePaths (← redactCredentials input.toList)
    let value := text.take 300
    return if isChatShape value || isBlank (String.ofList value) then none
      else some (String.ofList value)

end ImBridge
