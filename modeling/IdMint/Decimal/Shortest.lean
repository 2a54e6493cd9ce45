import IdMint.Decimal.Double

/-!
# Shortest decimal text of a double

A double stands for an interval of real numbers: those that round to it. Of the
decimals in that interval the shortest is written, and of the shortest the
nearest. `shortest` finds it by trying one, two, … seventeen digits and asking,
in exact arithmetic, whether one of the two neighbours of the number on that
decimal grid lies in the interval.

How the digits are laid out is a matter of the report they go to, so it is a
record, `Layout`.
-/

namespace IdMint.Decimal

/-- A decimal number: `digits * 10 ^ exponent`. -/
structure Scaled where
  digits : Nat
  exponent : Int
deriving DecidableEq, Repr

/-- What a double is. -/
inductive Class
  | notANumber
  | infinite (negative : Bool)
  /-- The number `significand * 2 ^ exponent`, with a sign that zero has, too. -/
  | finite (negative : Bool) (significand : Nat) (exponent : Int)
deriving DecidableEq, Repr

/-- Takes the bits of a double apart. -/
def classify (bits : UInt64) : Class :=
  let n := bits.toNat
  let negative := 0x8000000000000000 ≤ n
  let biased : Nat := n / hiddenBit % 0x800
  let fraction : Nat := n % hiddenBit
  if biased = 0x7FF then
    if fraction = 0 then .infinite negative else .notANumber
  else if biased = 0 then .finite negative fraction (-1074)
  else .finite negative (hiddenBit + fraction) ((biased : Int) - 1075)

/-- `10 ^ e` as a fraction. -/
def powerOfTen (e : Int) : Nat × Nat :=
  if 0 ≤ e then (Nat.pow 10 e.toNat, 1) else (1, Nat.pow 10 (-e).toNat)

/-- `2 ^ e` as a fraction. -/
def powerOfTwo (e : Int) : Nat × Nat :=
  if 0 ≤ e then (Nat.pow 2 e.toNat, 1) else (1, Nat.pow 2 (-e).toNat)

/-- The interval of a positive double in quarters of its unit: the number, its
lower and its upper end. The lower half is half as wide at a power of two. -/
def interval (significand : Nat) (exponent : Int) : Nat × Nat × Nat :=
  let low :=
    if significand = hiddenBit && exponent != -1074 then 4 * significand - 1 else 4 * significand - 2
  (4 * significand, low, 4 * significand + 2)

/-- The neighbour of a double on the grid of the multiples of `10 ^ k` that lies
in its interval; of two the nearer, of two equally near the even one. -/
def onGrid? (significand : Nat) (exponent k : Int) : Option Nat :=
  let (value, low, high) := interval significand exponent
  let (n, d) := powerOfTwo (exponent - 2)
  let (p, q) := powerOfTen k
  let unit := n * q
  let step := p * d
  let inside (g : Nat) : Bool :=
    if significand % 2 = 0 then low * unit ≤ g * step && g * step ≤ high * unit
    else low * unit < g * step && g * step < high * unit
  let below := value * unit / step
  match inside below, inside (below + 1) with
  | true, false => some below
  | false, true => some (below + 1)
  | false, false => none
  | true, true =>
    let down := value * unit - below * step
    let up := (below + 1) * step - value * unit
    if down < up || (down == up && below % 2 == 0) then some below else some (below + 1)

/-- The least `e`, from a starting point, with a double below `10 ^ e`. -/
def decimalExponent (significand : Nat) (exponent : Int) : Nat → Int → Int
  | 0, e => e
  | fuel + 1, e =>
    let (n, d) := powerOfTwo exponent
    let (p, q) := powerOfTen e
    if significand * n * q < p * d then e else decimalExponent significand exponent fuel (e + 1)

/-- Moves the zeros at the end of the digits into the exponent. -/
def Scaled.normalise : Nat → Scaled → Scaled
  | 0, x => x
  | fuel + 1, x =>
    if x.digits ≠ 0 ∧ x.digits % 10 = 0 then normalise fuel ⟨x.digits / 10, x.exponent + 1⟩ else x

/-- The shortest decimal in the interval of a positive double. -/
def shortest (significand : Nat) (exponent : Int) : Scaled :=
  let estimate : Int := ((significand.log2 : Int) + exponent) * 30103 / 100000 - 1
  let top := decimalExponent significand exponent 6 estimate
  let found := (List.range 17).findSome? fun (n : Nat) =>
    let k : Int := top - (n + 1)
    (onGrid? significand exponent k).map fun digits => (⟨digits, k⟩ : Scaled)
  (found.getD ⟨0, 0⟩).normalise 20

/-- How numbers are laid out in a report. -/
structure Layout where
  /-- The least and the greatest place of the decimal point, counted from the
  first digit, for which there is no exponent. -/
  leastPoint : Int
  greatestPoint : Int
  /-- The least number of digits of an exponent. -/
  exponentDigits : Nat
  notANumber : String
  infinity : String

/-- An exponent, with its sign. -/
def Layout.exponent (layout : Layout) (e : Int) : Text :=
  Text.concat [if e < 0 then "e-" else "e+",
    Text.zeroPadded layout.exponentDigits (Text.ofNat e.natAbs)]

/-- A decimal number: without an exponent it has a point and a digit after it;
with one it has a point only if it has several digits. -/
def Layout.decimal (layout : Layout) (x : Scaled) : Text :=
  let digits := Text.ofNat x.digits
  let point : Int := digits.length + x.exponent
  if layout.leastPoint ≤ point ∧ point ≤ layout.greatestPoint then
    if point ≤ 0 then
      Text.concat ["0.", List.replicate (-point).toNat (CodePoint.ofChar '0'), digits]
    else if digits.length ≤ point then
      Text.concat [digits, List.replicate (point.toNat - digits.length) (CodePoint.ofChar '0'), ".0"]
    else Text.concat [digits.take point.toNat, ".", digits.drop point.toNat]
  else
    let mantissa : Text :=
      match digits with
      | first :: more@(_ :: _) => first :: (CodePoint.ofChar '.' :: more)
      | short => short
    mantissa ++ layout.exponent (point - 1)

/-- The text of a double. -/
def Layout.float (layout : Layout) (x : Float) : Text :=
  let signed (negative : Bool) (t : Text) : Text := if negative then CodePoint.ofChar '-' :: t else t
  match classify x.toBits with
  | .notANumber => layout.notANumber
  | .infinite negative => signed negative layout.infinity
  | .finite negative 0 _ => signed negative "0.0"
  | .finite negative significand exponent =>
    signed negative (layout.decimal (shortest significand exponent))

end IdMint.Decimal
