import Mathlib.Algebra.GroupWithZero.Nat
import Mathlib.Tactic.Common

/-!
# Length-framed byte strings

A sequence of byte strings is written as one by putting the length of each, as a fixed number of
bytes with the most significant one first, before it. As long as every length fits, nothing is
lost: two sequences with the same encoding are equal, also when one is longer than the other.

## Main definitions

* `bigEndian k n`: the last `k` base-256 digits of `n`, most significant first
* `ofBigEndian bytes`: the number with these base-256 digits
* `frame k b`, `frames k bs`: a byte string, and a sequence of them, behind their lengths

## Main results

* `ofBigEndian_bigEndian`: a number below `256 ^ k` is read back from its digits
* `bigEndian_injective`: numbers below `256 ^ k` have distinct digits
* `frames_injective`: sequences of byte strings shorter than `256 ^ k` have distinct encodings
* `toString_injective`, `toString_int_injective`: numbers have distinct decimal texts
-/

namespace Encoding

/-- The last `k` base-256 digits of `n`, most significant first. -/
def bigEndian : ℕ → ℕ → List UInt8
  | 0, _ => []
  | k + 1, n => bigEndian k (n / 256) ++ [UInt8.ofNat n]

@[simp] theorem length_bigEndian (k n : ℕ) : (bigEndian k n).length = k := by
  induction k generalizing n with
  | zero => rfl
  | succ k ih => simp [bigEndian, ih]

/-- The number with these base-256 digits, most significant first. -/
def ofBigEndian (bytes : List UInt8) : ℕ := bytes.foldl (fun n byte => n * 256 + byte.toNat) 0

theorem ofBigEndian_bigEndian {k n : ℕ} (h : n < 256 ^ k) : ofBigEndian (bigEndian k n) = n := by
  induction k generalizing n with
  | zero => rw [bigEndian, ofBigEndian, List.foldl_nil]; omega
  | succ k ih =>
    have hhigh : ofBigEndian (bigEndian k (n / 256)) = n / 256 := by
      refine ih ?_
      rw [Nat.pow_succ] at h
      omega
    have hsnoc : ofBigEndian (bigEndian (k + 1) n) =
        ofBigEndian (bigEndian k (n / 256)) * 256 + (UInt8.ofNat n).toNat := by
      simp [ofBigEndian, bigEndian]
    rw [hsnoc, hhigh, UInt8.toNat_ofNat']
    omega

theorem bigEndian_injective {k m n : ℕ} (hm : m < 256 ^ k) (hn : n < 256 ^ k)
    (h : bigEndian k m = bigEndian k n) : m = n := by
  induction k generalizing m n with
  | zero => omega
  | succ k ih =>
    simp only [bigEndian] at h
    obtain ⟨hhigh, hlow⟩ := List.append_inj h (by simp)
    have hdiv : m / 256 = n / 256 := by
      refine ih ?_ ?_ hhigh
      · rw [Nat.pow_succ] at hm; omega
      · rw [Nat.pow_succ] at hn; omega
    have hmod : m % 256 = n % 256 := by
      have hbyte := congrArg UInt8.toNat (List.singleton_inj.mp hlow)
      simpa using hbyte
    omega

/-- A byte string behind its length. -/
def frame (k : ℕ) (b : List UInt8) : List UInt8 := bigEndian k b.length ++ b

/-- The byte strings, each behind its length. -/
def frames (k : ℕ) (bs : List (List UInt8)) : List UInt8 := bs.flatMap (frame k)

/-- The first frame and what follows it can be told apart. -/
theorem frame_append_inj {k : ℕ} {b c rest rest' : List UInt8} (hb : b.length < 256 ^ k)
    (hc : c.length < 256 ^ k) (h : frame k b ++ rest = frame k c ++ rest') :
    b = c ∧ rest = rest' := by
  simp only [frame, List.append_assoc] at h
  obtain ⟨hlen, hbody⟩ := List.append_inj h (by simp)
  exact List.append_inj hbody (bigEndian_injective hb hc hlen)

/-- **Framed sequences are told apart**, whatever their numbers of parts. -/
theorem frames_injective {k : ℕ} (hk : 0 < k) {bs cs : List (List UInt8)}
    (hbs : ∀ b ∈ bs, b.length < 256 ^ k) (hcs : ∀ c ∈ cs, c.length < 256 ^ k)
    (h : frames k bs = frames k cs) : bs = cs := by
  induction bs generalizing cs with
  | nil =>
    cases cs with
    | nil => rfl
    | cons c cs =>
      have hlen := congrArg List.length h
      simp [frames, frame] at hlen
      omega
  | cons b bs ih =>
    cases cs with
    | nil =>
      have hlen := congrArg List.length h
      simp [frames, frame] at hlen
      omega
    | cons c cs =>
      simp only [frames, List.flatMap_cons] at h
      obtain ⟨rfl, hrest⟩ := frame_append_inj (hbs b (by simp)) (hcs c (by simp)) h
      rw [ih (fun x hx => hbs x (by simp [hx])) (fun x hx => hcs x (by simp [hx])) hrest]

/-- Numbers are told apart by their decimal texts. -/
theorem toString_injective {m n : ℕ} (h : toString m = toString n) : m = n := by
  have hdigits : Nat.toDigits 10 m = Nat.toDigits 10 n := by
    simpa [← String.toList_inj] using h
  rw [← Nat.ofDigitChars_ten_toDigits (n := m), hdigits, Nat.ofDigitChars_ten_toDigits]

/-- Integers are told apart by their decimal texts. -/
theorem toString_int_injective {m n : ℤ} (h : toString m = toString n) : m = n := by
  -- only the texts of negative numbers have a sign
  have hsign : ∀ k : ℕ, '-' ∉ Nat.toDigits 10 k := by
    intro k hmem
    have hdigit := Nat.isDigit_of_mem_toDigits (by omega) (by omega) hmem
    simp at hdigit
  rw [← String.toList_inj] at h
  cases m with
  | ofNat m =>
    cases n with
    | ofNat n =>
      have hrepr : toString m = toString n := by
        rw [← String.toList_inj]
        exact h
      rw [toString_injective hrepr]
    | negSucc n =>
      have hmem : '-' ∈ (toString (Int.ofNat m)).toList := by rw [h]; simp [Int.repr]
      exact absurd hmem (by simpa [Int.repr] using hsign m)
  | negSucc m =>
    cases n with
    | ofNat n =>
      have hmem : '-' ∈ (toString (Int.ofNat n)).toList := by rw [← h]; simp [Int.repr]
      exact absurd hmem (by simpa [Int.repr] using hsign n)
    | negSucc n =>
      have hrepr : toString (m + 1) = toString (n + 1) := by
        rw [← String.toList_inj]
        simpa [Int.repr] using h
      rw [Nat.succ.inj (toString_injective hrepr)]

end Encoding
