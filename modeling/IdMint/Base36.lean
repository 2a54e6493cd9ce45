import IdMint.Bytes

/-!
# Base 36

The numeral of a natural number in base 36, with the digits `0 … 9` and `a … z`,
and the numeral of a byte string read as a big-endian number. Zero is written as
a single `0`; no other numeral starts with that digit.
-/

namespace IdMint.Base36

/-- The digit of a value below 36. -/
def digit (d : Nat) : CodePoint :=
  if d < 10 then Fin.ofNat 0x110000 (0x30 + d) else Fin.ofNat 0x110000 (0x61 + (d - 10))

/-- The values of the digits of a number, the lowest first; zero has none. -/
def digitValues (n : Nat) : List Nat :=
  if h : n = 0 then [] else n % 36 :: digitValues (n / 36)
termination_by n
decreasing_by omega

/-- The numeral of a number. -/
def numeral (n : Nat) : Text :=
  if n = 0 then [digit 0] else (digitValues n).reverse.map digit

/-- The numeral of a byte string. -/
def encode (bytes : Bytes) : Text := numeral bytes.toNatBig

theorem digitValues_zero : digitValues 0 = [] := by
  rw [digitValues]; rfl

theorem digitValues_of_pos {n : Nat} (h : 0 < n) :
    digitValues n = n % 36 :: digitValues (n / 36) := by
  rw [digitValues, dif_neg (by omega)]

end IdMint.Base36
