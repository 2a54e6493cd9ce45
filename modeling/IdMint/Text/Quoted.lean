import IdMint.Text.Printable

/-!
# Quoted texts

The literal form of a text: between single quotes, unless the text holds a
single quote and no double quote. The quote in use and the backslash are written
after a backslash, and so is every code point that may not be shown: the three
usual layout characters by a letter, the others in hexadecimal, with as few
digits as their size asks for among two, four and eight.
-/

namespace IdMint.Text

/-- The quotation mark around a text. -/
def quoteFor (t : Text) : Char :=
  if t.any (·.is '\x27') && !t.any (·.is '"') then '"' else '\x27'

/-- A code point inside a quoted text. -/
def quoteCodePoint (quote : Char) (c : CodePoint) : Text :=
  if c.is quote || c.is '\\' then [('\\' : Char), c]
  else if c.is '\t' then "\\t"
  else if c.is '\n' then "\\n"
  else if c.is '\r' then "\\r"
  else if isPrintable c then [c]
  else if c.val < 0x100 then ("\\x" : Text) ++ hex 2 c.val
  else if c.val < 0x10000 then ("\\u" : Text) ++ hex 4 c.val
  else ("\\U" : Text) ++ hex 8 c.val

/-- The literal form of a text. -/
def quoted (t : Text) : Text :=
  let quote := quoteFor t
  (quote : CodePoint) :: t.flatMap (quoteCodePoint quote) ++ [(quote : CodePoint)]

end IdMint.Text
