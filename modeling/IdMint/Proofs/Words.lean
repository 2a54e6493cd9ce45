import IdMint.Counter
import Mathlib.Tactic.Ring

/-!
# Words of sixty-four bits

`wrap64` folds the integers onto the signed 64-bit ones, `counterAfter` is the
successor that a counter uses, and `Bytes.packLittle` writes the last digits of
an integer down.  All three say the same about an integer, namely what it is
modulo a power of two, and this module ties them together:

* `wrap64_eq_iff`: two integers wrap to the same value exactly when they are
  congruent;
* `counterAfter_wrap64`: the successor by comparison is the successor modulo
  `2 ^ 64`;
* `Bytes.toNatLittle_packLittle`: packed bytes denote the integer modulo
  `256 ^ width`.
-/

namespace IdMint

/-- The integers that a signed 64-bit word can hold. -/
def IsInt64 (v : Int) : Prop := int64Min ≤ v ∧ v ≤ int64Max

instance (v : Int) : Decidable (IsInt64 v) := by
  unfold IsInt64
  infer_instance

theorem isInt64_wrap64 (v : Int) : IsInt64 (wrap64 v) := by
  unfold IsInt64 wrap64 int64Min int64Max
  omega

theorem wrap64_of_isInt64 {v : Int} (hv : IsInt64 v) : wrap64 v = v := by
  obtain ⟨hmin, hmax⟩ := hv
  unfold int64Min at hmin
  unfold int64Max at hmax
  unfold wrap64 int64Min
  omega

theorem wrap64_emod (v : Int) : wrap64 v % 2 ^ 64 = v % 2 ^ 64 := by
  unfold wrap64 int64Min
  omega

theorem wrap64_eq_iff (v w : Int) : wrap64 v = wrap64 w ↔ v % 2 ^ 64 = w % 2 ^ 64 := by
  constructor
  · intro heq
    rw [← wrap64_emod v, ← wrap64_emod w, heq]
  · intro heq
    unfold wrap64 int64Min
    omega

/-- The successor of a counter is written as a comparison with the greatest
value.  It agrees with addition modulo `2 ^ 64` everywhere, at the seam
included. -/
theorem counterAfter_wrap64 (v : Int) : counterAfter (wrap64 v) = wrap64 (v + 1) := by
  unfold counterAfter wrap64 int64Min int64Max
  split <;> omega

/-- On a full turn of the counter no value comes twice. -/
theorem wrap64_add_inj {start : Int} {i j : Nat} (hi : i < 2 ^ 64) (hj : j < 2 ^ 64)
    (heq : wrap64 (start + i) = wrap64 (start + j)) : i = j := by
  have hmod := (wrap64_eq_iff _ _).1 heq
  omega

/-- How far a value lies behind `start` in the cyclic order of the signed 64-bit
integers. -/
def cyclicOffset (start v : Int) : Int := (v - start) % 2 ^ 64

theorem cyclicOffset_wrap64_add {start : Int} {i : Nat} (hi : i < 2 ^ 64) :
    cyclicOffset start (wrap64 (start + i)) = i := by
  have hmod := wrap64_emod (start + i)
  unfold cyclicOffset
  omega

/-- A signed 64-bit integer is found again at its offset. -/
theorem wrap64_add_cyclicOffset (start : Int) {v : Int} (hv : IsInt64 v) :
    wrap64 (start + cyclicOffset start v) = v := by
  rw [← wrap64_of_isInt64 hv, wrap64_eq_iff, wrap64_of_isInt64 hv]
  unfold cyclicOffset
  omega

namespace Bytes

@[simp] theorem toNatLittle_nil : toNatLittle [] = 0 := rfl

@[simp] theorem toNatLittle_cons (b : UInt8) (rest : Bytes) :
    toNatLittle (b :: rest) = b.toNat + 256 * toNatLittle rest := rfl

/-- The byte of the last base-256 digit of an integer. -/
theorem toNat_lastByte (v : Int) :
    ((UInt8.ofNat (v % 256).toNat).toNat : Int) = v % 256 := by
  have hnonneg : 0 ≤ v % 256 := Int.emod_nonneg v (by decide)
  have hlt : v % 256 < 256 := Int.emod_lt_of_pos v (by decide)
  have hbyte : (v % 256).toNat % 2 ^ 8 = (v % 256).toNat := Nat.mod_eq_of_lt (by omega)
  rw [UInt8.toNat_ofNat', hbyte, Int.toNat_of_nonneg hnonneg]

/-- The last `n + 1` base-256 digits are the last one and the last `n` of the
rest. -/
theorem emod_pow_succ (v : Int) (n : Nat) :
    v % 256 ^ (n + 1) = v % 256 + 256 * (v / 256 % 256 ^ n) := by
  have hpow : (256 : Int) ^ (n + 1) = 256 * 256 ^ n := by ring
  have hpos : (0 : Int) < 256 ^ n := Int.pow_pos (by decide)
  have hrest := Int.emod_nonneg (v / 256) (Int.ne_of_gt hpos)
  have hbound := Int.emod_lt_of_pos (v / 256) hpos
  have hsplit := Int.emod_add_mul_ediv v 256
  have hquotient := Int.emod_add_mul_ediv (v / 256) (256 ^ n)
  have hv :
      v = v % 256 + 256 * (v / 256 % 256 ^ n) + 256 ^ (n + 1) * (v / 256 / 256 ^ n) := by
    calc
      v = v % 256 + 256 * (v / 256) := hsplit.symm
      _ = v % 256 + 256 * (v / 256 % 256 ^ n + 256 ^ n * (v / 256 / 256 ^ n)) := by
        rw [hquotient]
      _ = _ := by rw [hpow]; ring
  have hdigit := Int.emod_nonneg v (show (256 : Int) ≠ 0 by decide)
  have hdigitLt := Int.emod_lt_of_pos v (show (0 : Int) < 256 by decide)
  conv_lhs => rw [hv]
  rw [Int.add_mul_emod_self_left]
  exact Int.emod_eq_of_lt (by omega) (by rw [hpow]; omega)

/-- Packed bytes, read as a little-endian number, are the integer modulo
`256 ^ width`. -/
theorem toNatLittle_packLittle (width : Nat) (v : Int) :
    (toNatLittle (packLittle width v) : Int) = v % 256 ^ width := by
  induction width generalizing v with
  | zero => simp [packLittle]
  | succ width ih =>
      rw [packLittle, toNatLittle_cons, emod_pow_succ, ← ih (v / 256)]
      push_cast
      rw [toNat_lastByte]

theorem emod_eq_of_pack64_eq {v w : Int}
    (h : pack64 v = pack64 w) : v % 2 ^ 64 = w % 2 ^ 64 := by
  have hv := toNatLittle_packLittle 8 v
  have hw := toNatLittle_packLittle 8 w
  rw [show packLittle 8 v = packLittle 8 w from h, hw] at hv
  exact hv.symm

/-- Packing tells signed 64-bit integers apart. -/
theorem pack64_injective {v w : Int} (hv : IsInt64 v) (hw : IsInt64 w)
    (h : pack64 v = pack64 w) :
    v = w := by
  rw [← wrap64_of_isInt64 hv, ← wrap64_of_isInt64 hw, wrap64_eq_iff]
  exact emod_eq_of_pack64_eq h

end Bytes

end IdMint
