import IdMint.Text.Digit

/-!
# Reading integers

An integer is written with an optional sign and digits, of any script, in base
ten; single underscores may group the digits and blanks may stand at either end.
The other bases have the digits of their own and may name themselves by a marker
such as `0x`.

Numerals in base ten are limited to 4300 digits, in both directions: a longer
one is not read, and an integer that needs more is not written. Reading and
writing long numerals costs quadratic time, and the limit keeps hostile input
from making use of that.
-/

namespace IdMint.Decimal

/-- The most decimal digits that are read or written. -/
def digitLimit : Nat := 4300

/-- What is wrong with a numeral. -/
inductive Defect
  /-- It is no numeral. -/
  | malformed
  /-- It has this many digits, which is more than the limit. -/
  | tooLong (digits : Nat)
deriving DecidableEq, Repr

/-- The value of a digit in a base of up to sixteen. Letters count from ten;
digits of other scripts have the values of their own. -/
def digitIn? (base : Nat) (c : CodePoint) : Option Nat :=
  let value :=
    if 0x61 ≤ c.val && c.val ≤ 0x66 then some (c.val - 0x61 + 10)
    else if 0x41 ≤ c.val && c.val ≤ 0x46 then some (c.val - 0x41 + 10)
    else Text.digitValue? c
  value.filter (· < base)

/-- Reads digits with single underscores between them, as far as they go: the
number, how many digits there were, and the rest. -/
def readDigits (base : Nat) (value count : Nat) : Text → Nat × Nat × Text
  | [] => (value, count, [])
  | [c] => match digitIn? base c with
    | some d => (base * value + d, count + 1, [])
    | none => (value, count, [c])
  | c :: next :: rest =>
    match digitIn? base c with
    | some d => readDigits base (base * value + d) (count + 1) (next :: rest)
    | none =>
      if c.is '_' && 0 < count && (digitIn? base next).isSome then
        match digitIn? base next with
        | some d => readDigits base (base * value + d) (count + 1) rest
        | none => (value, count, c :: next :: rest)
      else (value, count, c :: next :: rest)

/-- The letter that marks a base. -/
def baseMarker? : Nat → Option (Char × Char)
  | 2 => some ('b', 'B')
  | 8 => some ('o', 'O')
  | 16 => some ('x', 'X')
  | _ => none

/-- The text after a marker such as `0x`, which an underscore may follow. -/
def skipMarker (base : Nat) (t : Text) : Text :=
  match baseMarker? base, t with
  | some (lower, upper), c :: mark :: rest =>
    if c.is '0' && (mark.is lower || mark.is upper) then
      match rest with
      | u :: rest => if u.is '_' then rest else u :: rest
      | [] => []
    else t
  | _, _ => t

/-- Only bases that are no power of two are costly, so only they are limited. -/
def isLimited (base : Nat) : Bool := base != 2 && base != 8 && base != 16

/-- The sign at the head of a text, as a factor, and the rest. -/
def readSign : Text → Int × Text
  | c :: rest => if c.is '-' then (-1, rest) else if c.is '+' then (1, rest) else (1, c :: rest)
  | [] => (1, [])

/-- The integer that a text denotes. -/
def readInt (base : Nat) (t : Text) : Except Defect Int :=
  let (sign, body) := readSign (Text.trim t)
  let (value, count, rest) := readDigits base 0 0 (skipMarker base body)
  if isLimited base && digitLimit < count then .error (.tooLong count)
  else if count = 0 || !rest.isEmpty then .error .malformed
  else .ok (sign * value)

/-- The integer has a numeral within the limit. -/
def isWritable (n : Int) : Bool := n.natAbs < Nat.pow 10 digitLimit

end IdMint.Decimal
