import Mathlib.Algebra.Group.Int.Defs
import Mathlib.Algebra.GroupWithZero.Nat
import Mathlib.Data.List.DropRight
import Mathlib.Data.List.Infix

/-!
# Strings, bytes and JSON values

The operations of the standard library that the bridge uses on strings, on lists of characters so
that they compute, and the values of the JSON library.

## Main definitions

* `Bytes`: byte strings
* `isBlank`: the test `trim().is_empty()`
* `toAsciiLowercase`, `containsText`, `startsWith`: the string tests of the error mapper and of the
  backend
* `utf8`, `fromUtf8`: the UTF-8 bytes of a string, and back
* `Json`: JSON values
-/

namespace ImBridge

/-- Byte strings. -/
abbrev Bytes := List UInt8

/-- The characters that `trim` removes: those with the Unicode property `White_Space`. -/
def isWhitespace (c : Char) : Bool :=
  let n := c.toNat
  (9 ≤ n && n ≤ 13) || n = 32 || n = 0x85 || n = 0xA0 || n = 0x1680 ||
    (0x2000 ≤ n && n ≤ 0x200A) || n = 0x2028 || n = 0x2029 || n = 0x202F || n = 0x205F ||
    n = 0x3000

/-- Nothing is left of the string once it is trimmed. -/
def isBlank (s : String) : Bool := s.toList.all isWhitespace

/-- The text without the white space at its end points. -/
def trimText (text : List Char) : List Char :=
  (text.dropWhile isWhitespace).rdropWhile isWhitespace

def trim (s : String) : String := String.ofList (trimText s.toList)

/-- The string without the characters `c` at its end points. -/
def trimMatches (c : Char) (s : String) : String :=
  String.ofList ((s.toList.dropWhile (· == c)).reverse.dropWhile (· == c)).reverse

/-- An ASCII letter in lower case. -/
def asciiLowercase (c : Char) : Char :=
  if 'A' ≤ c ∧ c ≤ 'Z' then Char.ofNat (c.toNat + 32) else c

def toAsciiLowercase (s : String) : String := String.ofList (s.toList.map asciiLowercase)

/-- Where the pattern occurs for the last time; the pattern is not empty. -/
def rfind (pattern : List Char) : List Char → Option ℕ
  | [] => none
  | c :: rest =>
    match rfind pattern rest with
    | some i => some (i + 1)
    | none => if pattern.isPrefixOf (c :: rest) then some 0 else none

/-- The first string occurs in the second one. -/
def containsText (needle s : String) : Bool :=
  s.toList.tails.any fun rest => needle.toList.isPrefixOf rest

/-- The second string starts with the first one. -/
def startsWith (start s : String) : Bool := start.toList.isPrefixOf s.toList

def isAsciiHexdigit (c : Char) : Bool :=
  ('0' ≤ c && c ≤ '9') || ('a' ≤ c && c ≤ 'f') || ('A' ≤ c && c ≤ 'F')

/-- The UTF-8 bytes of a string. -/
def utf8 (s : String) : Bytes := s.toUTF8.data.toList

/-- The string with these UTF-8 bytes, if there is one. -/
def fromUtf8 (b : Bytes) : Option String := String.fromUTF8? ⟨b.toArray⟩

theorem utf8_injective {s t : String} (h : utf8 s = utf8 t) : s = t := by
  have hdata : s.toUTF8.data = t.toUTF8.data := Array.toList_inj.mp h
  exact String.toByteArray_inj.mp (congrArg ByteArray.mk hdata)

theorem fromUtf8_utf8 (s : String) : fromUtf8 (utf8 s) = some s := by
  have hbytes : (⟨(utf8 s).toArray⟩ : ByteArray) = s.toByteArray := rfl
  rw [fromUtf8, hbytes, String.fromUTF8?, dif_pos s.isValidUTF8]
  rfl

theorem utf8_of_fromUtf8 {b : Bytes} {s : String} (h : fromUtf8 b = some s) : utf8 s = b := by
  unfold fromUtf8 String.fromUTF8? at h
  split at h
  · cases h
    rfl
  · cases h

/-- Both parts of a computation that succeeds succeed. -/
theorem exists_of_bind_eq_ok {ε α β : Type} {x : Except ε α} {f : α → Except ε β} {b : β}
    (h : (x >>= f) = .ok b) : ∃ a, x = .ok a ∧ f a = .ok b := by
  cases x with
  | ok a => exact ⟨a, rfl, h⟩
  | error e => cases h

/-- JSON values. A number that is not an integer keeps its digits. -/
inductive Json
  | null
  | bool (b : Bool)
  | int (n : ℤ)
  | float (digits : String)
  | string (s : String)
  | array (elems : List Json)
  | object (fields : List (String × Json))

namespace Json

/-- The field of an object. -/
def get (v : Json) (key : String) : Option Json :=
  match v with
  | object fields => fields.lookup key
  | _ => none

def asStr : Json → Option String
  | string s => some s
  | _ => none

def asBool : Json → Option Bool
  | bool b => some b
  | _ => none

/-- An integer in the range of `i64`. -/
def asI64 : Json → Option ℤ
  | int n => if -2 ^ 63 ≤ n ∧ n < 2 ^ 63 then some n else none
  | _ => none

/-- An integer in the range of `u64`. -/
def asU64 : Json → Option ℕ
  | int n => if 0 ≤ n ∧ n < 2 ^ 64 then some n.toNat else none
  | _ => none

def asArray : Json → Option (List Json)
  | array elems => some elems
  | _ => none

/-- The value at a path of field names. -/
def pointer (v : Json) : List String → Option Json
  | [] => some v
  | key :: keys => (v.get key).bind (pointer · keys)

end Json

end ImBridge
