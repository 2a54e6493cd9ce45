import IdMint.Base36
import Mathlib.Data.Nat.Digits.Lemmas

/-!
# Numerals in base 36

The digits that `Base36.digitValues` splits off one by one are the digits of a
number in positional notation.  The length of a numeral is read off from there:
a numeral has at most `k` characters exactly when the number lies below
`36 ^ k`.  Zero is no exception as long as `k` is positive, though its numeral
is written by a rule of its own.
-/

namespace IdMint

namespace CodePoint

/-- The letters `a … z`. -/
def IsLetter (c : CodePoint) : Prop := 0x61 ≤ c.val ∧ c.val ≤ 0x7A

/-- The digits `0 … 9` and the letters `a … z`. -/
def IsBase36 (c : CodePoint) : Prop := (0x30 ≤ c.val ∧ c.val ≤ 0x39) ∨ c.IsLetter

instance (c : CodePoint) : Decidable c.IsLetter := by
  unfold IsLetter
  infer_instance

instance (c : CodePoint) : Decidable c.IsBase36 := by
  unfold IsBase36
  infer_instance

end CodePoint

namespace Base36

theorem digitValues_eq_digits (n : Nat) : digitValues n = Nat.digits 36 n := by
  induction n using Nat.strong_induction_on with
  | _ n ih =>
      by_cases hn : n = 0
      · subst hn
        rw [digitValues_zero, Nat.digits_zero]
      · have hpos : 0 < n := Nat.pos_of_ne_zero hn
        have hlt : n / 36 < n := Nat.div_lt_self hpos (by decide)
        rw [digitValues_of_pos hpos, Nat.digits_def' (by decide) hpos, ih _ hlt]

theorem isBase36_digit {d : Nat} (hd : d < 36) : (digit d).IsBase36 := by
  unfold digit
  split
  · left
    simp only [Fin.ofNat]
    omega
  · right
    simp only [CodePoint.IsLetter, Fin.ofNat]
    omega

theorem isBase36_of_mem_numeral {n : Nat} {c : CodePoint}
    (hc : c ∈ numeral n) : c.IsBase36 := by
  unfold numeral at hc
  split at hc
  · rw [List.mem_singleton] at hc
    subst hc
    exact isBase36_digit (by decide)
  · obtain ⟨d, hd, rfl⟩ := List.mem_map.mp hc
    rw [List.mem_reverse, digitValues_eq_digits] at hd
    exact isBase36_digit (Nat.digits_lt_base (by decide) hd)

/-- A numeral has at most `k` characters exactly when the number lies below
`36 ^ k`. -/
theorem length_numeral_le_iff {n k : Nat} (hk : 0 < k) :
    (numeral n).length ≤ k ↔ n < 36 ^ k := by
  unfold numeral
  split
  · next hzero =>
      subst hzero
      have hpow : 0 < 36 ^ k := Nat.pow_pos (by decide)
      simp only [List.length_singleton]
      omega
  · rw [List.length_map, List.length_reverse, digitValues_eq_digits]
    exact Nat.digits_length_le_iff (by decide) n

end Base36

end IdMint
