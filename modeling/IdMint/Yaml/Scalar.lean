import IdMint.Base64
import IdMint.Decimal.Double
import IdMint.Text.Lower
import IdMint.Yaml.Node

/-!
# The values of scalars

What a text is worth under a tag. A tag can be stated, so any text may meet any
tag: a text that is no number under the tag of numbers is a fault, and only
where the language has no meaning for a tag, or for a text under it, is the
stream malformed.
-/

namespace IdMint.Yaml

/-- A numeral without the underscores that group its digits. -/
def ungrouped (t : Text) : Text := t.filter (!·.is '_')

/-- The sign at the head of a numeral, as a factor, and the rest. There is at
least one character. -/
def signed (t : Text) : Except Fault (Int × Text) :=
  if t.isEmpty then .error .emptyNumeral else .ok (Decimal.readSign t)

/-- The integer that a numeral denotes. -/
def integerIn (base : Nat) (t : Text) : Except Fault Int :=
  (Decimal.readInt base t).mapError fun
    | .malformed => .malformedNumeral base t
    | .tooLong digits => .numeralTooLong digits

/-- The number with given digits in base sixty, the highest first. -/
def sexagesimal (digits : List Int) : Int := digits.foldl (fun n d => 60 * n + d) 0

/-- The integer that an unsigned text denotes: in base two or sixteen after a
marker, in base eight after a zero, in base sixty where there are colons, in
base ten otherwise. -/
def unsignedInteger (t : Text) : Except Fault Int :=
  match t with
  | [] => .error .emptyNumeral
  | first :: rest =>
    if first.is '0' then
      if rest.isEmpty then .ok 0
      else if Text.startsWith 'b' rest then integerIn 2 (rest.drop 1)
      else if Text.startsWith 'x' rest then integerIn 16 (rest.drop 1)
      else integerIn 8 t
    else if t.any (·.is ':') then
      ((Text.splitOn ':' t).mapM (integerIn 10)).map sexagesimal
    else integerIn 10 t

/-- The integer that a text stands for. -/
def integerOf (t : Text) : Except Fault Int := do
  let (sign, body) ← signed (ungrouped t)
  return sign * (← unsignedInteger body)

/-- The floating-point number that a numeral denotes. -/
def floatIn (t : Text) : Except Fault Float :=
  match Decimal.readFloat? t with
  | some x => .ok x
  | none => .error (.malformedFloat t)

/-- Adds digits in base sixty up, the lowest first; `weight` is that of the
first one. -/
def addSixtieths (weight : Nat) (sum : Float) : List Float → Except Fault Float
  | [] => .ok sum
  | digit :: rest =>
    let factor := Decimal.nearest weight 0
    if factor.isInf then .error .beyondFloat
    else addSixtieths (60 * weight) (sum + digit * factor) rest

/-- The name of the undefined number. -/
def undefinedName : Text := ".nan"

/-- The floating-point number that an unsigned text in lower case denotes. -/
def unsignedFloat (t : Text) : Except Fault Float :=
  if t = Text.ofString ".inf" then .ok (Float.ofBits 0x7FF0000000000000)
  else if t = undefinedName then .ok (Float.ofBits 0x7FF8000000000000)
  else if t.any (·.is ':') then do
    let digits ← (Text.splitOn ':' t).mapM floatIn
    addSixtieths 1 0.0 digits.reverse
  else floatIn t

/-- The floating-point number that a text stands for. -/
def floatOf (t : Text) : Except Fault Float := do
  let (sign, body) ← signed (ungrouped t).lower
  let x ← unsignedFloat body
  return if sign < 0 then -x else x

/-- The text gives the undefined number by its name, possibly with a sign. -/
def namesUndefined (t : Text) : Bool :=
  match signed (ungrouped t).lower with
  | .ok (_, body) => body = undefinedName
  | .error _ => false

/-- The truth value that a word stands for, in letters of either case. -/
def truthOf (t : Text) : Except Fault Bool :=
  match Tag.truths.find? fun (word, _) => Text.ofString word = t.lower with
  | some (_, truth) => .ok truth
  | none => .error (.unknownTruth t.lower)

/-- The day or the point in time that a text stands for. A line break may end
it. -/
def stampOf (t : Text) : Except Fault Value :=
  match Stamp.read? (dropFinalBreak (spelling t)) with
  | some stamp => stamp.value
  | none => .error .noTimestamp

/-- The bytes that a text stands for. -/
def bytesOf (t : Text) : Except Flaw Bytes :=
  if t.all fun c => c.val < 0x80 then
    match Base64.decode? t with
    | some bytes => .ok bytes
    | none => .error .malformed
  else .error .malformed

/-- The value of a text under a tag of scalars. -/
def Tag.scalarValue (tag : Tag) (t : Text) : Except Flaw Value :=
  match tag with
  | null => .ok .null
  | bool => ((truthOf t).map Value.bool).mapError .fault
  | int => ((integerOf t).map Value.int).mapError .fault
  | float => ((floatOf t).map Value.float).mapError .fault
  | timestamp => (stampOf t).mapError .fault
  | binary => (bytesOf t).map Value.bytes
  | text => .ok (.text t)
  | _ => .error .malformed

end IdMint.Yaml
