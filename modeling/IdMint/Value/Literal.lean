import IdMint.Value.Basic

/-!
# Literal forms of values

`literal` is how a value is written inside messages and inside other values,
`display` how it is written on its own: there, a text stands without quotes and
a date in calendar notation. A thing of another kind has a literal form of its
own, which is also what is shown of it on its own. Both fail only on integers too
long to be written.
-/

namespace IdMint.Value

/-- Numbers below `10 ^ 16` and from `0.0001` on have no exponent; exponents
have a sign and at least two digits. -/
def floatLayout : Decimal.Layout where
  leastPoint := -3
  greatestPoint := 16
  exponentDigits := 2
  notANumber := "nan"
  infinity := "inf"

/-- The numeral of an integer. -/
def integer (n : Int) : Except Fault Text :=
  if Decimal.isWritable n then .ok (Text.ofInt n) else .error .unwritable

/-- A byte inside the literal form of a byte string. -/
def quoteByte (quote : Char) (b : UInt8) : Text :=
  let c : CodePoint := Fin.ofNat 0x110000 b.toNat
  if c.is quote || c.is '\\' then [('\\' : Char), c]
  else if c.is '\t' then "\\t"
  else if c.is '\n' then "\\n"
  else if c.is '\r' then "\\r"
  else if 0x20 ≤ b && b < 0x7F then [c]
  else ("\\x" : Text) ++ Text.hex 2 b.toNat

/-- The literal form of a byte string. -/
def byteString (bytes : Bytes) : Text :=
  let quote : Char := if bytes.contains 0x27 && !bytes.contains 0x22 then '"' else '\x27'
  Text.concat ["b", [quote], bytes.flatMap (quoteByte quote), [quote]]

/-- The literal form of a duration in seconds. -/
def duration (seconds : Int) : Text :=
  let days := Int.fdiv seconds 86400
  let rest := Int.fmod seconds 86400
  let parts : List Text :=
    (if days = 0 then [] else [("days=" : Text) ++ Text.ofInt days]) ++
    (if rest = 0 then [] else [("seconds=" : Text) ++ Text.ofInt rest])
  Text.concat ["datetime.timedelta(", if parts.isEmpty then "0" else Text.join ", " parts, ")"]

/-- The literal form of a distance from universal time. -/
def zone (seconds : Int) : Text :=
  if seconds = 0 then "datetime.timezone.utc"
  else Text.concat ["datetime.timezone(", duration seconds, ")"]

/-- The numerals of a date. -/
def dateParts (d : Date) : List Text := [d.year, d.month, d.day].map Text.ofNat

/-- The numerals of a point in time; seconds and microseconds are left out from
the right where they are zero. -/
def timestampParts (t : Timestamp) : List Text :=
  let seconds :=
    if t.microsecond ≠ 0 then [t.second, t.microsecond]
    else if t.second ≠ 0 then [t.second] else []
  dateParts t.date ++ ([t.hour, t.minute] ++ seconds).map Text.ofNat ++
    (t.offset.map fun seconds => ("tzinfo=" : Text) ++ zone seconds).toList

/-- A numeral with leading zeros. -/
def padded (width n : Nat) : Text := Text.zeroPadded width (Text.ofNat n)

/-- A date in calendar notation. -/
def calendarDate (d : Date) : Text := Text.join "-" [padded 4 d.year, padded 2 d.month, padded 2 d.day]

/-- A distance from universal time in clock notation. -/
def clockOffset (seconds : Int) : Text :=
  let n := seconds.natAbs
  Text.concat [if seconds < 0 then "-" else "+", padded 2 (n / 3600), ":", padded 2 (n / 60 % 60)]

/-- A point in time in calendar notation. -/
def calendarTimestamp (t : Timestamp) : Text :=
  Text.concat [calendarDate t.date, " ",
    Text.join ":" [padded 2 t.hour, padded 2 t.minute, padded 2 t.second],
    if t.microsecond = 0 then [] else ("." : Text) ++ padded 6 t.microsecond,
    (t.offset.map clockOffset).getD []]

/-- Texts between brackets, with commas. -/
def bracketed (opening closing : Text) (parts : List Text) : Text :=
  Text.concat [opening, Text.join ", " parts, closing]

mutual

/-- The literal form of a value. -/
def literal : Value → Except Fault Text
  | null => .ok "None"
  | bool b => .ok (if b then "True" else "False")
  | int n => integer n
  | float x => .ok (floatLayout.float x)
  | text t => .ok t.quoted
  | bytes b => .ok (byteString b)
  | date d => .ok (bracketed "datetime.date(" ")" (dateParts d))
  | timestamp t => .ok (bracketed "datetime.datetime(" ")" (timestampParts t))
  | list items => (literals items).map (bracketed "[" "]")
  | pair a b => do return bracketed "(" ")" [← literal a, ← literal b]
  | set items => (literals items).map fun parts =>
      if parts.isEmpty then "set()" else bracketed "\x7b" "\x7d" parts
  | dict entries => (entryLiterals entries).map (bracketed "\x7b" "\x7d")
  | object _ _ (some shown) => .ok shown
  | object _ _ none => .error .unwritable
  | recurrence isDict => .ok (if isDict then "\x7b...\x7d" else "[...]")

/-- The literal forms of the members of a collection. -/
def literals : List Value → Except Fault (List Text)
  | [] => .ok []
  | v :: rest => do return (← literal v) :: (← literals rest)

/-- The literal forms of the entries of a dictionary. -/
def entryLiterals : List (Value × Value) → Except Fault (List Text)
  | [] => .ok []
  | (k, v) :: rest => do
    let key ← literal k
    let value ← literal v
    return Text.concat [key, ": ", value] :: (← entryLiterals rest)

end

/-- A value on its own. -/
def display : Value → Except Fault Text
  | text t => .ok t
  | date d => .ok (calendarDate d)
  | timestamp t => .ok (calendarTimestamp t)
  | v => literal v

end IdMint.Value
