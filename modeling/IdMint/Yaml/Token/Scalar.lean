import IdMint.Yaml.Token.Cursor

/-!
# Scalars of a YAML stream

The five ways in which a text can stand in a stream: plain, between single or
double quotes, and as a literal or a folded block. In all but the literal block,
a line break between two lines of text is a space, and further breaks after it
are line breaks of the text.
-/

namespace IdMint.Yaml

/-- Characters as a text. -/
def textOf (cs : List Char) : Text := cs.map CodePoint.ofChar

/-! ## Plain scalars -/

/-- The characters of a plain scalar up to the next blank, or to what ends it. -/
def plainStretch (inFlow : Bool) : List Char → List Char
  | [] => []
  | c :: rest =>
    let next := rest.headD endMark
    if isBlankOrEnd c
      || (c == ':' && (isBlankOrEnd next || (inFlow && isFlowIndicator next)))
      || (inFlow && (c == '?' || isFlowIndicator c)) then []
    else c :: plainStretch inFlow rest

/-- Line breaks and spaces up to the next text, unless a mark between documents
comes first. -/
def plainBreaks : Nat → Read (Option (List Char))
  | 0 => return some []
  | fuel + 1 => do
    if (← peek) == ' ' then
      forward
      plainBreaks fuel
    else match ← readBreak? with
      | none => return some []
      | some c =>
        if ← atAnySeparator then return none
        return (← plainBreaks fuel).map (c :: ·)

/-- What the breaks between two lines come to. -/
def foldBreaks (first : Char) (more : List Char) : List Char :=
  if first ≠ '\n' then first :: more else if more.isEmpty then [' '] else more

/-- The blanks after a stretch of a plain scalar, as far as they can belong to
it. -/
def plainSpaces : Read (List Char) := do
  let spaces ← readWhile (· == ' ')
  match ← readBreak? with
  | none => return spaces
  | some first =>
    allowKey true
    if ← atAnySeparator then return []
    match ← plainBreaks ((← get).rest.length + 1) with
    | none => return []
    | some more => return foldBreaks first more

/-- The stretch of a plain scalar at the cursor. If a colon ends it, that is
because of what follows the colon. -/
def readStretch : Read (List Char) := do
  let c ← get
  let stretch := plainStretch (c.depth ≠ 0) c.rest
  if (← peek stretch.length) == ':' then
    let _ ← peek (stretch.length + 1)
  return stretch

/-- A plain scalar from its second stretch on, after the blanks before it. -/
def plainFrom (indent : Int) : Nat → List Char → Read (List Char)
  | 0, _ => return []
  | fuel + 1, spaces => do
    if (← peek) == '#' then return []
    let stretch ← readStretch
    if stretch.isEmpty then return []
    allowKey false
    forward stretch.length
    let after ← plainSpaces
    let c ← get
    if after.isEmpty || c.head == '#' || (c.depth = 0 && c.column < indent) then
      return spaces ++ stretch
    return spaces ++ stretch ++ (← plainFrom indent fuel after)

/-- A plain scalar. -/
def readPlain : Read Text := do
  let c ← get
  return textOf (← plainFrom (c.indent + 1) (c.rest.length + 1) [])

/-! ## Quoted scalars -/

/-- The characters that a letter after a backslash stands for. -/
def escapes : List (Char × Char) := [
  ('0', '\x00'), ('a', '\x07'), ('b', '\x08'), ('t', '\t'), ('\t', '\t'), ('n', '\n'),
  ('v', '\x0b'), ('f', '\x0c'), ('r', '\r'), ('e', '\x1b'), (' ', ' '), ('"', '"'),
  ('\\', '\\'), ('/', '/'), ('N', '\x85'), ('_', '\xa0'), ('L', '\u2028'), ('P', '\u2029')]

/-- How many hexadecimal digits follow a letter after a backslash. -/
def escapeDigits? : Char → Option Nat
  | 'x' => some 2
  | 'u' => some 4
  | 'U' => some 8
  | _ => none

/-- The value of a hexadecimal digit. -/
def hexValue? (c : Char) : Option Nat :=
  if c.isDigit then some (c.toNat - 0x30)
  else if 'a' ≤ c && c ≤ 'f' then some (c.toNat - 0x61 + 10)
  else if 'A' ≤ c && c ≤ 'F' then some (c.toNat - 0x41 + 10)
  else none

/-- The number that a given count of hexadecimal digits ahead denotes. -/
def peekHex (count : Nat) : Read Nat := do
  let values := ((← get).rest.take count).map hexValue?
  let digits := (values.takeWhile Option.isSome).reduceOption
  if digits.length ≠ count then
    let _ ← peek digits.length
    malformed
  return digits.foldl (fun n d => 16 * n + d) 0

/-- The code point with a given number. -/
def codePointOf (n : Nat) : Read CodePoint :=
  if h : n < 0x110000 then return ⟨n, h⟩ else throw (.fault (.noCodePoint n))

/-- Line breaks inside a quoted scalar, with the blanks around them. -/
def quotedBreaks : Nat → Read (List Char)
  | 0 => return []
  | fuel + 1 => do
    if ← atAnySeparator then malformed
    let _ ← readWhile fun c => c == ' ' || c == '\t'
    match ← readBreak? with
    | none => return []
    | some c => return c :: (← quotedBreaks fuel)

/-- What comes after a backslash. -/
def readEscape : Read Text := do
  let c ← peek
  if let some (_, meaning) := escapes.find? (·.1 == c) then
    forward
    return [(meaning : CodePoint)]
  else if let some count := escapeDigits? c then
    forward
    let codePoint ← codePointOf (← peekHex count)
    forward count
    return [codePoint]
  else if isBreak c then
    let _ ← readBreak?
    return textOf (← quotedBreaks ((← get).rest.length + 1))
  else malformed

/-- Reads a quote or a backslash that belongs to the text of a quoted scalar,
with what it brings about: what it stands for. A single quote that is doubled
stands for one. -/
def readInnerMark? (double : Bool) (c : Char) : Read (Option Text) := do
  if double && c == '\\' then
    forward
    return some (← readEscape)
  else if (double && c == '\x27') || (!double && (c == '"' || c == '\\')) then
    forward
    return some [(c : CodePoint)]
  else if c == '\x27' then
    if (← peek 1) == '\x27' then
      forward 2
      return some [(c : CodePoint)]
    else return none
  else return none

/-- The text of a quoted scalar up to the next blank or to the quote that ends
it. -/
def quotedStretch (double : Bool) : Nat → Read Text
  | 0 => return []
  | fuel + 1 => do
    let plain ← readWhile fun c =>
      !(isBlankOrEnd c || c == '\x27' || c == '"' || c == '\\')
    match ← readInnerMark? double (← peek) with
    | none => return textOf plain
    | some found => return textOf plain ++ found ++ (← quotedStretch double fuel)

/-- The blanks inside a quoted scalar. -/
def quotedSpaces : Read Text := do
  let spaces ← readWhile fun c => c == ' ' || c == '\t'
  if (← peek) == endMark then malformed
  match ← readBreak? with
  | none => return textOf spaces
  | some first => return textOf (foldBreaks first (← quotedBreaks ((← get).rest.length + 1)))

/-- A quoted scalar after its first stretch. -/
def quotedFrom (quote : Char) : Nat → Read Text
  | 0 => malformed
  | fuel + 1 => do
    if (← peek) == quote then return []
    let spaces ← quotedSpaces
    let stretch ← quotedStretch (quote == '"') ((← get).rest.length + 1)
    return spaces ++ stretch ++ (← quotedFrom quote fuel)

/-- A quoted scalar. -/
def readQuoted : Read Text := do
  let quote ← peek
  forward
  let first ← quotedStretch (quote == '"') ((← get).rest.length + 1)
  let more ← quotedFrom quote ((← get).rest.length + 1)
  forward
  return first ++ more

/-! ## Block scalars -/

/-- What is done with the line breaks at the end of a block: by default one is
kept. -/
inductive Chomping
  | clip
  | strip
  | keep
deriving DecidableEq

/-- Reads what is done with the line breaks at the end, if that is stated. -/
def readChomping? : Read (Option Chomping) := do
  let c ← peek
  if c == '+' || c == '-' then
    forward
    return some (if c == '+' then .keep else .strip)
  else return none

/-- Reads by how much the block is indented, if that is stated. -/
def readIncrement? : Read (Option Nat) := do
  let c ← peek
  if c.isDigit then
    if c == '0' then malformed
    forward
    return some (c.toNat - 0x30)
  else return none

/-- The head of a block scalar. -/
def readBlockHead : Read (Chomping × Option Nat) := do
  let head ← match ← readChomping? with
    | some chomping => pure (chomping, ← readIncrement?)
    | none =>
      let increment ← readIncrement?
      match increment with
      | some _ => pure ((← readChomping?).getD .clip, increment)
      | none => pure (.clip, none)
  if !isSpaceOrEnd (← peek) then malformed
  readLineRemainder
  return head

/-- The empty lines at the start of a block whose indentation is not stated, and
the greatest column that spaces reach in them. -/
def blockIndentation (deepest : Nat) : Nat → Read (List Char × Nat)
  | 0 => return ([], deepest)
  | fuel + 1 => do
    if (← peek) == ' ' then
      forward
      blockIndentation (max deepest (← get).column) fuel
    else match ← readBreak? with
      | none => return ([], deepest)
      | some c =>
        let (more, deepest) ← blockIndentation deepest fuel
        return (c :: more, deepest)

/-- Passes over spaces up to a column. -/
def skipIndentation (indent : Nat) : Read Unit := do
  let c ← get
  forward ((c.rest.take (indent - c.column)).takeWhile (· == ' ')).length

/-- The empty lines before a line of a block. -/
def blockBreaks (indent : Nat) : Nat → Read (List Char)
  | 0 => return []
  | fuel + 1 => do
    skipIndentation indent
    match ← readBreak? with
    | none => return []
    | some c => return c :: (← blockBreaks indent fuel)

/-- The lines of a block, after the empty lines before them. -/
def blockLines (folded : Bool) (chomping : Chomping) (indent : Nat) :
    Nat → List Char → Option Char → Read (List Char)
  | 0, _, _ => return []
  | fuel + 1, breaks, lastBreak => do
    let c ← get
    if c.column = indent && c.head ≠ endMark then
      let startsWithText := !(c.head == ' ' || c.head == '\t')
      let line ← readWhile (!isLineEnd ·)
      let lineBreak ← readBreak?
      let after ← blockBreaks indent ((← get).rest.length + 1)
      let next ← get
      if next.column = indent && next.head ≠ endMark then
        let nextStartsWithText := !(next.head == ' ' || next.head == '\t')
        let glue :=
          if folded && lineBreak == some '\n' && startsWithText && nextStartsWithText then
            if after.isEmpty then [' '] else []
          else lineBreak.toList
        return breaks ++ line ++ glue ++ (← blockLines folded chomping indent fuel after lineBreak)
      else return breaks ++ line ++ ending lineBreak after
    else return ending lastBreak breaks
where
  /-- The line breaks that are kept at the end. -/
  ending (lineBreak : Option Char) (after : List Char) : List Char :=
    match chomping with
    | .strip => []
    | .clip => lineBreak.toList
    | .keep => lineBreak.toList ++ after

/-- A block scalar. -/
def readBlock (folded : Bool) : Read Text := do
  forward
  let (chomping, increment) ← readBlockHead
  let least := max 1 ((← get).indent + 1).toNat
  let fuel := (← get).rest.length + 1
  let (breaks, indent) ← match increment with
    | some n => do
      let indent := least + n - 1
      pure (← blockBreaks indent fuel, indent)
    | none => do
      let (breaks, deepest) ← blockIndentation 0 fuel
      pure (breaks, max least deepest)
  return textOf (← blockLines folded chomping indent fuel breaks none)

end IdMint.Yaml
