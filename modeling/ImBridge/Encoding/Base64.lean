import Mathlib.Algebra.GroupWithZero.Nat
import Mathlib.Data.List.GetD
import Mathlib.Tactic.Common

/-!
# Base64

The standard alphabet with padding: three bytes are written as four symbols, and the last group is
filled up with equals signs. The decoder is strict: it wants the padding, and the bits that the
padding leaves over to be zero.

## Main definitions

* `Base64.symbol`, `Base64.value`: the symbol of a number below 64, and back
* `Base64.encode`, `Base64.decode`: byte strings as symbols, and back

## Main results

* `Base64.decode_encode`: what was encoded is decoded
* `Base64.length_encode`: four symbols for each begun group of three bytes
* `Base64.mem_encode`: the symbols are those of the alphabet and the equals sign
-/

namespace Encoding

namespace Base64

/-- The symbols, in the order of their values. -/
def alphabet : List Char :=
  "ABCDEFGHIJKLMNOPQRSTUVWXYZabcdefghijklmnopqrstuvwxyz0123456789+/".toList

def symbol (n : ℕ) : Char := alphabet.getD n '='

def value (c : Char) : Option ℕ := alphabet.findIdx? (· == c)

def encode : List UInt8 → List Char
  | [] => []
  | [a] => [symbol (a.toNat / 4), symbol (a.toNat % 4 * 16), '=', '=']
  | [a, b] =>
    [symbol (a.toNat / 4), symbol (a.toNat % 4 * 16 + b.toNat / 16), symbol (b.toNat % 16 * 4), '=']
  | a :: b :: c :: rest =>
    symbol (a.toNat / 4) :: symbol (a.toNat % 4 * 16 + b.toNat / 16) ::
      symbol (b.toNat % 16 * 4 + c.toNat / 64) :: symbol (c.toNat % 64) :: encode rest

/-- The byte of a last group of two symbols. -/
def decodeOne (a b : Char) : Option (List UInt8) :=
  match value a, value b with
  | some x, some y => if y % 16 = 0 then some [UInt8.ofNat (x * 4 + y / 16)] else none
  | _, _ => none

/-- The bytes of a last group of three symbols. -/
def decodeTwo (a b c : Char) : Option (List UInt8) :=
  match value a, value b, value c with
  | some x, some y, some z =>
    if z % 4 = 0 then some [UInt8.ofNat (x * 4 + y / 16), UInt8.ofNat (y % 16 * 16 + z / 4)]
    else none
  | _, _, _ => none

/-- The bytes of a full group. -/
def decodeThree (a b c d : Char) : Option (List UInt8) :=
  match value a, value b, value c, value d with
  | some x, some y, some z, some w =>
    some [UInt8.ofNat (x * 4 + y / 16), UInt8.ofNat (y % 16 * 16 + z / 4),
      UInt8.ofNat (z % 4 * 64 + w)]
  | _, _, _, _ => none

def decode : List Char → Option (List UInt8)
  | [] => some []
  | a :: b :: c :: d :: rest =>
    if d = '=' then
      if rest ≠ [] then none
      else if c = '=' then decodeOne a b
      else decodeTwo a b c
    else
      match decodeThree a b c d, decode rest with
      | some group, some bytes => some (group ++ bytes)
      | _, _ => none
  | _ => none

variable {n : ℕ}

theorem value_symbol (h : n < 64) : value (symbol n) = some n := by
  revert n
  decide +kernel

theorem symbol_mem (h : n < 64) : symbol n ∈ alphabet := by
  have hlength : alphabet.length = 64 := by decide +kernel
  rw [symbol, List.getD_eq_getElem _ _ (by omega)]
  exact List.getElem_mem _

theorem symbol_ne_pad (h : n < 64) : symbol n ≠ '=' := by
  revert n
  decide +kernel

theorem byte_lt (a : UInt8) : a.toNat < 256 := a.toNat_lt

theorem ofNat_of_eq_toNat {a : UInt8} (h : n = a.toNat) : UInt8.ofNat n = a := by
  rw [h, UInt8.ofNat_toNat]

theorem decodeOne_encode (a : UInt8) :
    decodeOne (symbol (a.toNat / 4)) (symbol (a.toNat % 4 * 16)) = some [a] := by
  have ha := byte_lt a
  rw [decodeOne, value_symbol (by omega), value_symbol (by omega)]
  simp only
  rw [if_pos (by omega), ofNat_of_eq_toNat (a := a) (by omega)]

theorem decodeTwo_encode (a b : UInt8) :
    decodeTwo (symbol (a.toNat / 4)) (symbol (a.toNat % 4 * 16 + b.toNat / 16))
      (symbol (b.toNat % 16 * 4)) = some [a, b] := by
  have ha := byte_lt a
  have hb := byte_lt b
  rw [decodeTwo, value_symbol (by omega), value_symbol (by omega), value_symbol (by omega)]
  simp only
  rw [if_pos (by omega), ofNat_of_eq_toNat (a := a) (by omega),
    ofNat_of_eq_toNat (a := b) (by omega)]

theorem decodeThree_encode (a b c : UInt8) :
    decodeThree (symbol (a.toNat / 4)) (symbol (a.toNat % 4 * 16 + b.toNat / 16))
      (symbol (b.toNat % 16 * 4 + c.toNat / 64)) (symbol (c.toNat % 64)) = some [a, b, c] := by
  have ha := byte_lt a
  have hb := byte_lt b
  have hc := byte_lt c
  rw [decodeThree, value_symbol (by omega), value_symbol (by omega), value_symbol (by omega),
    value_symbol (by omega)]
  simp only
  rw [ofNat_of_eq_toNat (a := a) (by omega), ofNat_of_eq_toNat (a := b) (by omega),
    ofNat_of_eq_toNat (a := c) (by omega)]

/-- **What was encoded is decoded.** -/
theorem decode_encode (bytes : List UInt8) : decode (encode bytes) = some bytes := by
  induction bytes using encode.induct with
  | case1 => rfl
  | case2 a =>
    rw [encode, decode, if_pos rfl, if_neg (not_not_intro rfl), if_pos rfl]
    exact decodeOne_encode a
  | case3 a b =>
    have hb := byte_lt b
    rw [encode, decode, if_pos rfl, if_neg (not_not_intro rfl), if_neg (symbol_ne_pad (by omega))]
    exact decodeTwo_encode a b
  | case4 a b c rest ih =>
    have hc := byte_lt c
    rw [encode, decode, if_neg (symbol_ne_pad (by omega)), decodeThree_encode, ih]
    rfl

/-- Four symbols for each begun group of three bytes. -/
theorem length_encode (bytes : List UInt8) :
    (encode bytes).length = 4 * ((bytes.length + 2) / 3) := by
  induction bytes using encode.induct with
  | case1 => rfl
  | case2 a | case3 a b => simp [encode]
  | case4 a b c rest ih =>
    simp only [encode, List.length_cons, ih]
    omega

theorem mem_encode {bytes : List UInt8} {c : Char} (h : c ∈ encode bytes) :
    c ∈ alphabet ∨ c = '=' := by
  induction bytes using encode.induct with
  | case1 => cases h
  | case2 a =>
    have ha := byte_lt a
    simp only [encode, List.mem_cons, List.not_mem_nil, or_false] at h
    rcases h with rfl | rfl | rfl | rfl
    · exact .inl (symbol_mem (by omega))
    · exact .inl (symbol_mem (by omega))
    · exact .inr rfl
    · exact .inr rfl
  | case3 a b =>
    have ha := byte_lt a
    have hb := byte_lt b
    simp only [encode, List.mem_cons, List.not_mem_nil, or_false] at h
    rcases h with rfl | rfl | rfl | rfl
    · exact .inl (symbol_mem (by omega))
    · exact .inl (symbol_mem (by omega))
    · exact .inl (symbol_mem (by omega))
    · exact .inr rfl
  | case4 a b c' rest ih =>
    have ha := byte_lt a
    have hb := byte_lt b
    have hc := byte_lt c'
    simp only [encode, List.mem_cons] at h
    rcases h with rfl | rfl | rfl | rfl | h
    · exact .inl (symbol_mem (by omega))
    · exact .inl (symbol_mem (by omega))
    · exact .inl (symbol_mem (by omega))
    · exact .inl (symbol_mem (by omega))
    · exact ih h

end Base64

end Encoding
