import IdMint.Yaml.Token
import IdMint.Yaml.Character

/-!
# A cursor over a YAML stream

The cursor knows what is still to be read and at which line and column that
stands, and it keeps the books that reading tokens needs: how deep in flow
collections it is, the indentation of the open blocks, and the tokens that may
turn out to be keys because a colon follows. Such a token has to end on the line
on which it begins, within 1024 characters.

A flaw that lies beyond the good part of a stream shows as soon as a character
of it is looked at. The character at the cursor itself can always be looked at:
`forward` sees to that.
-/

namespace IdMint.Yaml

/-- A token that may turn out to be a key. -/
structure KeyCandidate where
  /-- The depth in flow collections at which it stands. -/
  depth : Nat
  /-- Its number among the tokens. -/
  number : Nat
  /-- It begins a line of a block mapping, so it has to be a key. -/
  required : Bool
  index : Nat
  line : Nat
  column : Nat

/-- The state of reading. -/
structure Cursor where
  rest : List Char
  /-- The flaw of what follows the rest, unless the stream ends. -/
  beyond : Option Flaw := none
  index : Nat := 0
  line : Nat := 0
  column : Nat := 0
  /-- The tokens read so far, the last one first, and their number. -/
  tokens : List Token := []
  count : Nat := 0
  /-- How many flow collections are open. -/
  depth : Nat := 0
  /-- The indentation of the innermost block, and of those around it. -/
  indent : Int := -1
  outer : List Int := []
  /-- A key may begin here. -/
  keyAllowed : Bool := true
  candidates : List KeyCandidate := []

/-- Reading from a stream. -/
abbrev Read := StateT Cursor (Except Flaw)

/-- The stream breaks a rule. -/
def malformed {α : Type} : Read α := throw .malformed

namespace Cursor

/-- The character at the cursor. -/
def head (c : Cursor) : Char := c.rest.headD endMark

/-- The character `n` places ahead, unless a flaw is there. -/
def see (c : Cursor) (n : Nat) : Except Flaw Char :=
  match c.rest[n]?, c.beyond with
  | some ch, _ => .ok ch
  | none, some flaw => .error flaw
  | none, none => .ok endMark

/-- The cursor after the next character. A byte order mark takes no column. -/
def step (c : Cursor) : Cursor :=
  match c.rest with
  | [] => c
  | ch :: rest =>
    if isBreak ch then { c with rest, index := c.index + 1, line := c.line + 1, column := 0 }
    else if ch == '\ufeff' then { c with rest, index := c.index + 1 }
    else { c with rest, index := c.index + 1, column := c.column + 1 }

/-- The cursor after the next `n` characters. -/
def advance (c : Cursor) : Nat → Cursor
  | 0 => c
  | n + 1 => c.step.advance n

/-- A candidate can still be a key: the line on which it begins has not ended,
and it is not too long for a key. -/
def isFresh (c : Cursor) (k : KeyCandidate) : Bool := k.line = c.line && c.index - k.index ≤ 1024

/-- The tokens that are settled: neither they nor those before them can still
turn out to be keys. -/
def settled (c : Cursor) : List Token :=
  match ((c.candidates.filter c.isFresh).map (·.number)).min? with
  | some number => c.tokens.reverse.take number
  | none => c.tokens.reverse

end Cursor

/-- The character `n` places ahead. -/
def peek (n : Nat := 0) : Read Char := do liftM ((← get).see n)

/-- Goes on by `n` characters and looks at the one that is then at the cursor. -/
def forward (n : Nat := 1) : Read Unit := do
  let _ ← peek n
  modify (·.advance n)

/-- Reads characters as long as they satisfy a condition. -/
def readWhile (p : Char → Bool) : Read (List Char) := do
  let found := (← get).rest.takeWhile p
  forward found.length
  return found

/-- Passes over spaces. -/
def skipSpaces : Read Unit := do
  let _ ← readWhile (· == ' ')

/-- Passes over the rest of a line. -/
def skipLine : Read Unit := do
  let _ ← readWhile (!isLineEnd ·)

/-- Reads the end of a line, if one is here: what it stands for in a text. -/
def readBreak? : Read (Option Char) := do
  let ch ← peek
  if isBreak ch then
    forward
    return some (if ch == '\u2028' || ch == '\u2029' then ch else '\n')
  else return none

/-- A line that begins with one of the two marks between documents. -/
def atSeparator (mark : Char) : Read Bool := do
  let _ ← peek 2
  if (← get).rest.take 3 = [mark, mark, mark] then return isBlankOrEnd (← peek 3)
  else return false

/-- A line that begins with either mark between documents. -/
def atAnySeparator : Read Bool := atSeparator '-' <||> atSeparator '.'

/-- The end of the line, possibly after a comment. -/
def readLineRemainder : Read Unit := do
  skipSpaces
  if (← peek) == '#' then skipLine
  if isLineEnd (← peek) then
    let _ ← readBreak?
  else malformed

/-- Adds a token. -/
def emit (token : Token) : Read Unit :=
  modify fun c => { c with tokens := token :: c.tokens, count := c.count + 1 }

/-- Puts a token in before the one with a given number. -/
def emitBefore (number : Nat) (token : Token) : Read Unit :=
  modify fun c =>
    let later := c.count - number
    { c with
      tokens := c.tokens.take later ++ token :: c.tokens.drop later
      count := c.count + 1 }

/-- Closes the blocks that are indented deeper than a column. -/
def closeBlocks (column : Int) : Read Unit :=
  modify fun c => if c.depth ≠ 0 then c else close c.outer.length.succ c
where
  /-- Closes at most as many blocks as are open. -/
  close : Nat → Cursor → Cursor
    | 0, c => c
    | fuel + 1, c =>
      if column < c.indent then
        close fuel { c with
          indent := c.outer.headD (-1)
          outer := c.outer.tail
          tokens := .blockEnd :: c.tokens
          count := c.count + 1 }
      else c

/-- Opens a block at a column, unless one is open there: whether it did. -/
def openBlock (column : Int) : Read Bool := do
  let c ← get
  if c.indent < column then
    set { c with indent := column, outer := c.indent :: c.outer }
    return true
  else return false

/-- Forgets the candidates that can no longer be keys. -/
def dropStaleCandidates : Read Unit := do
  let c ← get
  let (fresh, stale) := c.candidates.partition c.isFresh
  if stale.any (·.required) then malformed
  set { c with candidates := fresh }

/-- Forgets the candidate at the present depth. -/
def dropCandidate : Read Unit := do
  let c ← get
  let (here, elsewhere) := c.candidates.partition fun k => k.depth = c.depth
  if here.any (·.required) then malformed
  set { c with candidates := elsewhere }

/-- Makes the next token a candidate, if a key may begin here. -/
def saveCandidate : Read Unit := do
  if (← get).keyAllowed then
    dropCandidate
    modify fun c => { c with
      candidates := {
        depth := c.depth
        number := c.count
        required := c.depth = 0 && c.indent = (c.column : Int)
        index := c.index
        line := c.line
        column := c.column } :: c.candidates }

/-- Settles whether a key may begin here. -/
def allowKey (allowed : Bool) : Read Unit := modify fun c => { c with keyAllowed := allowed }

end IdMint.Yaml
