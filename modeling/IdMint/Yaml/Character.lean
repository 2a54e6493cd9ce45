/-!
# Characters of a YAML stream

The classes of characters that the syntax of YAML 1.1 is written in. Looking
past the end of a stream shows the character `U+0000`, which no stream holds.
-/

namespace IdMint.Yaml

/-- What is seen past the end of a stream. -/
def endMark : Char := '\x00'

/-- The characters that a stream may hold. -/
def isAllowed (c : Char) : Bool :=
  let n := c.toNat
  n == 0x9 || n == 0xA || n == 0xD || (0x20 ≤ n && n ≤ 0x7E) || n == 0x85
    || (0xA0 ≤ n && n ≤ 0xD7FF) || (0xE000 ≤ n && n ≤ 0xFFFD) || 0x10000 ≤ n

/-- The characters that end a line. -/
def isBreak (c : Char) : Bool :=
  c == '\n' || c == '\r' || c == '\x85' || c == '\u2028' || c == '\u2029'

/-- The end of a line or of the stream. -/
def isLineEnd (c : Char) : Bool := c == endMark || isBreak c

/-- A space, or the end of a line or of the stream. -/
def isSpaceOrEnd (c : Char) : Bool := c == ' ' || isLineEnd c

/-- A blank, or the end of a line or of the stream. -/
def isBlankOrEnd (c : Char) : Bool := c == '\t' || isSpaceOrEnd c

/-- The characters of names: of directives, anchors and tag handles. -/
def isWord (c : Char) : Bool := c.isAlphanum || c == '-' || c == '_'

/-- The characters of a tag's suffix. -/
def isUri (c : Char) : Bool := c.isAlphanum || "-;/?:@&=+$,_.!~*'()[]%".toList.contains c

/-- The characters of collections in flow style. -/
def isFlowIndicator (c : Char) : Bool := ",[]\x7b\x7d".toList.contains c

/-- The characters that mean something at the start of a token. -/
def isIndicator (c : Char) : Bool := "-?:,[]\x7b\x7d#&*!|>'\"%@\x60".toList.contains c

end IdMint.Yaml
