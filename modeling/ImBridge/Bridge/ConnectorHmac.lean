import ImBridge.System

/-!
# The signature of a Connector request

What a request to the Connector is signed over: its method, path, normalised query, time, nonce,
content type and the hash of its body, one to a line.

## Main definitions

* `normalizeQuery`: the pairs of a query, in the order of their keys
* `canonicalString`: the text that is signed
* `sign`: the signature
* `verify`: the check of a signature, with the nonces seen so far
-/

namespace ImBridge

namespace ConnectorHmac

def allowedContentType : String := "application/octet-stream"

structure ConnectorHmacRequest where
  method : String
  path : String
  query : String
  timestampUnix : ℤ
  nonce : String
  contentType : String
  body : Bytes

inductive ConnectorHmacError
  | ambiguousQuery
  | invalidPath
  | mediaType
  | timestampSkew
  | nonceReplay
  | invalidNonce
  | invalidKey
  | signatureMismatch
  deriving DecidableEq, Repr

def pathIsLegal (path : String) : Bool :=
  startsWith "/" path && !containsText ".." path && !containsText "//" path &&
    !containsText "?" path && !containsText "#" path

/-- The key and the value of a part of a query, at its first equals sign. -/
def splitOnce (part : List Char) : List Char × List Char :=
  (part.takeWhile (· ≠ '='), (part.dropWhile (· ≠ '=')).drop 1)

/-- The pairs of the parts of a query, in order; no key is empty or occurs twice. -/
def queryPairs :
    List (List Char) → List (List Char × List Char) →
      Except ConnectorHmacError (List (List Char × List Char))
  | [], pairs => .ok pairs
  | part :: parts, pairs =>
    if part = [] then .error .ambiguousQuery
    else
      let (key, value) := splitOnce part
      if key = [] ∨ key ∈ pairs.map Prod.fst then .error .ambiguousQuery
      else queryPairs parts (pairs ++ [(key, value)])

/-- The keys are compared by their bytes. -/
def keyLe (a b : List Char × List Char) : Bool :=
  decide (utf8 (String.ofList a.1) ≤ utf8 (String.ofList b.1))

def normalizeQuery (query : String) : Except ConnectorHmacError String :=
  if query = "" then .ok ""
  else if query.toList.any fun c => c = '#' || c = ' ' then .error .ambiguousQuery
  else do
    let pairs ← queryPairs (query.toList.splitOn '&') []
    let parts := (pairs.mergeSort keyLe).map fun pair => pair.1 ++ '=' :: pair.2
    return String.ofList (List.intercalate ['&'] parts)

/-- The ASCII letters of the string in upper case. -/
def toAsciiUppercase (s : String) : String :=
  String.ofList (s.toList.map fun c => if 'a' ≤ c ∧ c ≤ 'z' then Char.ofNat (c.toNat - 32) else c)

def canonicalString (lib : Primitives) (req : ConnectorHmacRequest) :
    Except ConnectorHmacError String := do
  if req.contentType ≠ allowedContentType then throw .mediaType
  if !pathIsLegal req.path then throw .invalidPath
  let query ← normalizeQuery req.query
  return "\n".intercalate
    [toAsciiUppercase req.method, req.path, query, toString req.timestampUnix, req.nonce,
      req.contentType, lib.sha256Hex req.body]

def sign (lib : Primitives) (key : Bytes) (canonical : String) :
    Except ConnectorHmacError String :=
  if key = [] then .error .invalidKey else .ok (lib.hmacSha256Hex key (utf8 canonical))

/-! ## Verification -/

def maxSkewSecs : ℕ := 30

/-- The nonces seen so far, with their times. -/
structure MemoryNonceSet where
  inner : List (String × ℤ)
  deriving DecidableEq

namespace MemoryNonceSet

def contains (self : MemoryNonceSet) (nonce : String) : Bool := self.inner.any (·.1 == nonce)

def insertIfFresh (self : MemoryNonceSet) (nonce : String) (ts : ℤ) :
    Except ConnectorHmacError MemoryNonceSet :=
  if self.contains nonce then .error .nonceReplay else .ok ⟨(nonce, ts) :: self.inner⟩

end MemoryNonceSet

def isNonceChar (c : Char) : Bool :=
  ('A' ≤ c && c ≤ 'Z') || ('a' ≤ c && c ≤ 'z') || ('0' ≤ c && c ≤ '9') || c == '_' || c == '-'

/-- The length is counted in bytes; the characters that are allowed have one byte each. -/
def nonceIsValid (nonce : String) : Bool :=
  decide (8 ≤ nonce.toList.length) && decide (nonce.toList.length ≤ 128) &&
    nonce.toList.all isNonceChar

/-- Goes on only if the condition holds. -/
def ensure (cond : Bool) (error : ConnectorHmacError) : Except ConnectorHmacError Unit :=
  if cond then .ok () else .error error

theorem ensure_bind_eq_ok {α : Type} {cond : Bool} {error : ConnectorHmacError}
    {f : Unit → Except ConnectorHmacError α} {a : α} :
    (ensure cond error >>= f) = .ok a ↔ cond = true ∧ f () = .ok a := by
  cases cond
  · exact iff_of_false nofun nofun
  · exact (and_iff_right rfl).symm

/-- The nonces seen after a request that is accepted. -/
def verify (lib : Primitives) (key : Bytes) (req : ConnectorHmacRequest) (providedHex : String)
    (nowUnix : ℤ) (seenNonces : MemoryNonceSet) : Except ConnectorHmacError MemoryNonceSet := do
  ensure (req.contentType == allowedContentType) .mediaType
  ensure (pathIsLegal req.path) .invalidPath
  let _ ← normalizeQuery req.query
  ensure (nonceIsValid req.nonce) .invalidNonce
  ensure (decide ((req.timestampUnix - nowUnix).natAbs ≤ maxSkewSecs)) .timestampSkew
  ensure (!seenNonces.contains req.nonce) .nonceReplay
  let canonical ← canonicalString lib req
  let expected ← sign lib key canonical
  ensure (toAsciiLowercase providedHex == expected) .signatureMismatch
  seenNonces.insertIfFresh req.nonce req.timestampUnix

end ConnectorHmac

end ImBridge
