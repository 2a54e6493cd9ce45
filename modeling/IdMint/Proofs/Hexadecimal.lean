import IdMint.Bytes
import IdMint.Decimal.Integer
import Mathlib.Data.List.Basic

/-!
# Bytes as hexadecimal digits

Each byte is written in two digits, so that byte strings can be read back from their
digits (`Bytes.ofHex_hex`).
-/

namespace IdMint

namespace Bytes

/-- The bytes that a text of hexadecimal digits stands for, two digits a byte. -/
def ofHex : Text → Bytes
  | high :: low :: rest =>
    UInt8.ofNat (16 * (Decimal.digitIn? 16 high).getD 0 + (Decimal.digitIn? 16 low).getD 0) ::
      ofHex rest
  | _ => []

/-- The two digits of a byte stand for it. -/
theorem exists_digits (b : UInt8) :
    ∃ high low, Text.hex 2 b.toNat = [high, low] ∧ ofHex [high, low] = [b] := by
  have hall : ∀ n < 256, (Text.hex 2 n).length = 2 ∧ ofHex (Text.hex 2 n) = [UInt8.ofNat n] := by
    decide +kernel
  obtain ⟨hlength, hread⟩ := hall b.toNat b.toNat_lt
  obtain ⟨high, low, hdigits⟩ := List.length_eq_two.mp hlength
  rw [hdigits, UInt8.ofNat_toNat] at hread
  exact ⟨high, low, hdigits, hread⟩

/-- Bytes can be read back from their digits. -/
theorem ofHex_hex (bytes : Bytes) : ofHex bytes.hex = bytes := by
  induction bytes with
  | nil => rfl
  | cons b rest ih =>
      obtain ⟨high, low, hdigits, hread⟩ := exists_digits b
      have hsplit : hex (b :: rest) = high :: low :: hex rest := by
        show Text.hex 2 b.toNat ++ hex rest = _
        rw [hdigits]
        rfl
      rw [hsplit, ofHex, ih]
      exact congrArg (· :: rest) (List.cons.inj hread).1

/-- There are twice as many digits as bytes. -/
theorem length_hex (bytes : Bytes) : bytes.hex.length = 2 * bytes.length := by
  induction bytes with
  | nil => rfl
  | cons b rest ih =>
      obtain ⟨high, low, hdigits, -⟩ := exists_digits b
      show (Text.hex 2 b.toNat ++ hex rest).length = 2 * (rest.length + 1)
      rw [List.length_append, hdigits, ih]
      simp only [List.length_cons, List.length_nil]
      omega

end Bytes

end IdMint
