import IdMint.Value.Literal

/-!
# Values as JSON

JSON in ASCII: what is neither printable ASCII nor escaped by a letter is
written in units of UTF-16. The keys of a dictionary are texts; numbers, truth
values and null as keys are written as texts, and other keys cannot be written
at all. A value that JSON has no form for is written as the text of its literal
form.
-/

namespace IdMint.Value

/-- In JSON, numbers that are infinite or undefined have names of their own. -/
def jsonLayout : Decimal.Layout :=
  { floatLayout with notANumber := "NaN", infinity := "Infinity" }

/-- One unit of UTF-16 as an escape. -/
def jsonUnit (n : Nat) : Text := ("\\u" : Text) ++ Text.hex 4 n

/-- A code point inside a JSON text. -/
def jsonCodePoint (c : CodePoint) : Text :=
  if c.is '"' || c.is '\\' then [('\\' : Char), c]
  else if c.is '\n' then "\\n"
  else if c.is '\r' then "\\r"
  else if c.is '\t' then "\\t"
  else if c.val = 0x08 then "\\b"
  else if c.val = 0x0C then "\\f"
  else if 0x20 ≤ c.val && c.val ≤ 0x7E then [c]
  else if c.val < 0x10000 then jsonUnit c.val
  else
    let n := c.val - 0x10000
    jsonUnit (0xD800 + n / 0x400) ++ jsonUnit (0xDC00 + n % 0x400)

/-- A JSON text. -/
def jsonText (t : Text) : Text :=
  CodePoint.ofChar '"' :: t.flatMap jsonCodePoint ++ [CodePoint.ofChar '"']

/-- The text that a key is written as. -/
def jsonKey : Value → Except Fault Text
  | text t => .ok t
  | null => .ok "null"
  | bool b => .ok (if b then "true" else "false")
  | int n => integer n
  | float x => .ok (jsonLayout.float x)
  | v => .error (.unwritableKey v.typeName)

mutual

/-- A value as JSON. -/
def json : Value → Except Fault Text
  | null => .ok "null"
  | bool b => .ok (if b then "true" else "false")
  | int n => integer n
  | float x => .ok (jsonLayout.float x)
  | text t => .ok (jsonText t)
  | list items => (jsonItems items).map (bracketed "[" "]")
  | pair a b => do return bracketed "[" "]" [← json a, ← json b]
  | dict entries => (jsonEntries entries).map (bracketed "\x7b" "\x7d")
  | v => (literal v).map jsonText

/-- The members of a collection as JSON. -/
def jsonItems : List Value → Except Fault (List Text)
  | [] => .ok []
  | v :: rest => do return (← json v) :: (← jsonItems rest)

/-- The entries of a dictionary as JSON. -/
def jsonEntries : List (Value × Value) → Except Fault (List Text)
  | [] => .ok []
  | (k, v) :: rest => do
    let key ← jsonKey k
    let value ← json v
    return Text.concat [jsonText key, ": ", value] :: (← jsonEntries rest)

end

end IdMint.Value
