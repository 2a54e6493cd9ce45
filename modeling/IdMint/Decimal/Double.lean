import IdMint.Decimal.Integer

/-!
# Reading binary floating-point numbers

The double nearest to a rational number, a half going to the neighbour with an
even significand. The significand and the exponent are found in exact
arithmetic, so the result is correctly rounded over the whole range, subnormal
numbers included; beyond the range it is infinite.
-/

namespace IdMint.Decimal

/-- `n / d`, rounded to the nearest natural number, a half to the even one. -/
def roundHalfEven (n d : Nat) : Nat :=
  let q := n / d
  let r := n % d
  if 2 * r < d || (2 * r == d && q % 2 == 0) then q else q + 1

/-- `2 ^ 52`, the weight of the leading bit of a significand, which is not
written down. -/
def hiddenBit : Nat := 0x10000000000000

/-- `n / d` divided by `2 ^ e`, as numerator and denominator. -/
def scaleDown (n d : Nat) (e : Int) : Nat × Nat :=
  if 0 ≤ e then (n, d * Nat.pow 2 e.toNat) else (n * Nat.pow 2 (-e).toNat, d)

/-- The bits of the double nearest to `n / d`, for a positive `d`. -/
def bitsOfRatio (n d : Nat) : UInt64 :=
  if n = 0 then 0 else
    let least : Int := (n.log2 : Int) - d.log2 - 53
    let (a, b) := scaleDown n d least
    let e := max (if a < 2 * hiddenBit * b then least else least + 1) (-1074)
    let (a, b) := scaleDown n d e
    let bits := (e + 1074).toNat * hiddenBit + roundHalfEven a b
    UInt64.ofNat (min bits (0x7FF * hiddenBit))

/-- The double nearest to `digits * 10 ^ exponent`. Exponents that no double
reaches are settled without computing the power. -/
def nearest (digits : Nat) (exponent : Int) : Float :=
  if digits = 0 then 0.0
  else
    let size : Int := (Nat.toDigits 10 digits).length + exponent
    if 310 < size then Float.ofBits 0x7FF0000000000000
    else if size < -330 then 0.0
    else if 0 ≤ exponent then Float.ofBits (bitsOfRatio (digits * Nat.pow 10 exponent.toNat) 1)
    else Float.ofBits (bitsOfRatio digits (Nat.pow 10 (-exponent).toNat))

/-- The lower case of an ASCII letter; other code points stay. -/
def lowerAscii (c : CodePoint) : CodePoint :=
  if 0x41 ≤ c.val && c.val ≤ 0x5A then Fin.ofNat 0x110000 (c.val + 0x20) else c

/-- The value of a word for an infinite or undefined number. -/
def readWord? (t : Text) : Option Float :=
  let word := t.map lowerAscii
  if word = Text.ofString "inf" || word = Text.ofString "infinity" then
    some (Float.ofBits 0x7FF0000000000000)
  else if word = Text.ofString "nan" then some (Float.ofBits 0x7FF8000000000000)
  else none

/-- Reads the digits after a decimal point, if there is one. -/
def readFraction (value : Nat) : Text → Nat × Nat × Text
  | c :: rest =>
    if c.is '.' then readDigits 10 value 0 rest else (value, 0, c :: rest)
  | [] => (value, 0, [])

/-- Reads an exponent that makes up the whole rest of a text. -/
def readExponent? : Text → Option Int
  | [] => some 0
  | c :: rest =>
    if c.is 'e' || c.is 'E' then
      let (sign, body) := readSign rest
      let (value, count, rest) := readDigits 10 0 0 body
      if count = 0 || !rest.isEmpty then none else some (sign * value)
    else none

/-- The number that an unsigned decimal text denotes. -/
def readUnsigned? (t : Text) : Option Float :=
  let (whole, wholeCount, rest) := readDigits 10 0 0 t
  let (value, fractionCount, rest) := readFraction whole rest
  if wholeCount + fractionCount = 0 then none
  else (readExponent? rest).map fun exponent => nearest value (exponent - fractionCount)

/-- The number that a text denotes: a decimal text or a word, after an optional
sign. -/
def readFloat? (t : Text) : Option Float :=
  let (sign, body) := readSign (Text.trim t)
  ((readWord? body).orElse fun _ => readUnsigned? body).map fun x => if sign < 0 then -x else x

end IdMint.Decimal
