import IdMint.Yaml.Token.Scalar
import IdMint.Text.Utf8

/-!
# Reading tokens

`Token.ofStream` reads a whole stream. A stream that stops making sense still
gives the tokens that were settled by then, and after them a token that says so.
Whoever reads the tokens finds the flaws in the order of the text, with one
exception: a token that might still have been a key is not settled, so that what
is wrong with it or with its place does not show before the flaw that follows.
-/

namespace IdMint.Yaml

/-! ## Directives, anchors and tags -/

/-- Reads a decimal number. It may not have more digits than other numerals. -/
def readNumber : Read Nat := do
  let digits ← readWhile (·.isDigit)
  if digits.isEmpty then malformed
  if Decimal.digitLimit < digits.length then throw (.fault (.numeralTooLong digits.length))
  return digits.foldl (fun n c => 10 * n + (c.toNat - 0x30)) 0

/-- The version that a directive states; only its first part matters. -/
def readVersion : Read Token := do
  skipSpaces
  let major ← readNumber
  if (← peek) ≠ '.' then malformed
  forward
  let _ ← readNumber
  if !isSpaceOrEnd (← peek) then malformed
  return .versionDirective major

/-- The handle of a tag: one exclamation mark, or a name between two. -/
def readHandle : Read Text := do
  if (← peek) ≠ '!' then malformed
  if (← peek 1) == ' ' then
    forward
    return textOf ['!']
  let name := ((← get).rest.drop 1).takeWhile isWord
  if (← peek (name.length + 1)) ≠ '!' then malformed
  forward (name.length + 2)
  return textOf ('!' :: name ++ ['!'])

/-- Characters of a tag that are given by the bytes of their encoding. -/
def readEscapedBytes : Nat → Read Bytes
  | 0 => return []
  | fuel + 1 => do
    if (← peek) == '%' then
      forward
      let byte ← peekHex 2
      forward 2
      return UInt8.ofNat byte :: (← readEscapedBytes fuel)
    else return []

/-- The suffix of a tag. -/
def readSuffix : Nat → Read (List Char)
  | 0 => return []
  | fuel + 1 => do
    let plain ← readWhile fun c => isUri c && c ≠ '%'
    if (← peek) == '%' then
      let bytes ← readEscapedBytes ((← get).rest.length + 1)
      match Utf8.decode bytes with
      | .ok chars => return plain ++ chars ++ (← readSuffix fuel)
      | .error _ => malformed
    else return plain

/-- The suffix of a tag, which must not be empty. -/
def readUri : Read Text := do
  let c ← peek
  if !isUri c then malformed
  return textOf (← readSuffix ((← get).rest.length + 1))

/-- The namespace that a directive gives to a handle. -/
def readTagDirective : Read Token := do
  skipSpaces
  let handle ← readHandle
  if (← peek) ≠ ' ' then malformed
  skipSpaces
  let tagPrefix ← readUri
  if !isSpaceOrEnd (← peek) then malformed
  return .tagDirective handle tagPrefix

/-- A directive. -/
def readDirective : Read Token := do
  forward
  let name ← readWhile isWord
  if name.isEmpty || !isSpaceOrEnd (← peek) then malformed
  let directive ←
    if name = "YAML".toList then readVersion
    else if name = "TAG".toList then readTagDirective
    else do
      skipLine
      pure .otherDirective
  readLineRemainder
  return directive

/-- The name after the mark of an anchor or of an alias. -/
def readName : Read (List Char) := do
  forward
  let name ← readWhile isWord
  let c ← peek
  if name.isEmpty || !(isBlankOrEnd c || "?:,]\x7d%@\x60".toList.contains c) then malformed
  return name

/-- Whether the tag at the cursor has a handle with a name: there is a second
exclamation mark in it. -/
def peekHandle : Read Bool := do
  let ahead := ((← get).rest.drop 1).takeWhile (!isSpaceOrEnd ·)
  if ahead.contains '!' then return true
  let _ ← peek (ahead.length + 1)
  return false

/-- A tag. -/
def readTag : Read Token := do
  let next ← peek 1
  let tag ←
    if next == '<' then do
      forward 2
      let suffix ← readUri
      if (← peek) ≠ '>' then malformed
      forward
      pure (Token.tag none suffix)
    else if isBlankOrEnd next then do
      forward
      pure (Token.tag none (textOf ['!']))
    else do
      let handle ← if ← peekHandle then readHandle else do
        forward
        pure (textOf ['!'])
      pure (Token.tag (some handle) (← readUri))
  if !isSpaceOrEnd (← peek) then malformed
  return tag

/-! ## Tokens -/

/-- Passes over what stands between tokens: spaces, comments and line breaks.
Outside of flow collections a key may begin on a new line. -/
def skipToToken : Nat → Read Unit
  | 0 => return ()
  | fuel + 1 => do
    skipSpaces
    if (← peek) == '#' then skipLine
    match ← readBreak? with
    | none => return ()
    | some _ =>
      if (← get).depth = 0 then allowKey true
      skipToToken fuel

/-- The end of the stream or a mark between documents: all blocks end. -/
def endBlocks : Read Unit := do
  closeBlocks (-1)
  dropCandidate
  allowKey false

/-- The beginning of a flow collection. -/
def openFlow (token : Token) : Read Unit := do
  saveCandidate
  modify fun c => { c with depth := c.depth + 1 }
  allowKey true
  forward
  emit token

/-- The end of a flow collection. -/
def closeFlow (token : Token) : Read Unit := do
  dropCandidate
  if (← get).depth = 0 then malformed
  modify fun c => { c with depth := c.depth - 1 }
  allowKey false
  forward
  emit token

/-- The place of an entry or a key in a block: it may have to open the block. -/
def startInBlock (opening : Token) : Read Unit := do
  let c ← get
  if !c.keyAllowed then malformed
  if ← openBlock c.column then emit opening

/-- The dash before an entry of a sequence. -/
def readBlockEntry : Read Unit := do
  if (← get).depth = 0 then startInBlock .blockSequenceStart
  allowKey true
  dropCandidate
  forward
  emit .blockEntry

/-- The question mark before a key. -/
def readKey : Read Unit := do
  let inBlock := (← get).depth = 0
  if inBlock then startInBlock .blockMappingStart
  allowKey inBlock
  dropCandidate
  forward
  emit .key

/-- The colon before a value. If the token before it could be a key, it is one. -/
def readValue : Read Unit := do
  let c ← get
  let inBlock := c.depth = 0
  match c.candidates.find? (·.depth = c.depth) with
  | some k =>
    set { c with candidates := c.candidates.filter (·.depth ≠ c.depth) }
    emitBefore k.number .key
    if inBlock then
      if ← openBlock k.column then emitBefore k.number .blockMappingStart
    allowKey false
  | none =>
    if inBlock then startInBlock .blockMappingStart
    allowKey inBlock
    dropCandidate
  forward
  emit .value

/-- A token that may turn out to be a key. -/
def readCandidate (read : Read Token) : Read Unit := do
  saveCandidate
  allowKey false
  emit (← read)

/-- A comma between the members of a flow collection. -/
def readFlowEntry : Read Unit := do
  allowKey true
  dropCandidate
  forward
  emit .flowEntry

/-- A literal or a folded block. -/
def readBlockScalar (folded : Bool) : Read Unit := do
  allowKey true
  dropCandidate
  emit (.scalar (← readBlock folded) false)

/-- A quoted scalar, which may be a key. -/
def readQuotedScalar : Read Unit := readCandidate do return .scalar (← readQuoted) false

/-- A plain scalar, which may be a key. -/
def readPlainScalar : Read Unit := readCandidate do return .scalar (← readPlain) true

/-- A mark between documents. -/
def readSeparator (token : Token) : Read Unit := do
  endBlocks
  forward 3
  emit token

/-- The character at the cursor stands alone: a blank follows it, or the end. -/
def standsAlone : Read Bool := return isBlankOrEnd (← peek 1)

/-- The cursor is at a line that begins with a mark between documents. -/
def beginsSeparator (c : Cursor) (mark : Char) : Read Bool :=
  pure (c.column = 0 && c.head == mark) <&&> atSeparator mark

/-- Reads the token that begins at the cursor. -/
def readTokenAt (c : Cursor) : Read Unit := do
  let inFlow : Bool := c.depth ≠ 0
  if c.head == '%' && c.column = 0 then
    endBlocks
    emit (← readDirective)
  else if ← beginsSeparator c '-' then readSeparator .documentStart
  else if ← beginsSeparator c '.' then readSeparator .documentEnd
  else match c.head with
    | '[' => openFlow .flowSequenceStart
    | '\x7b' => openFlow .flowMappingStart
    | ']' => closeFlow .flowSequenceEnd
    | '\x7d' => closeFlow .flowMappingEnd
    | ',' => readFlowEntry
    | '*' => readCandidate (.alias <$> readName)
    | '&' => readCandidate (.anchor <$> readName)
    | '!' => readCandidate readTag
    | '\x27' | '"' => readQuotedScalar
    | '-' => if ← standsAlone then readBlockEntry else readPlainScalar
    | '?' => if ← pure inFlow <||> standsAlone then readKey else readPlainScalar
    | ':' => if ← pure inFlow <||> standsAlone then readValue else readPlainScalar
    | ch =>
      if (ch == '|' || ch == '>') && !inFlow then readBlockScalar (ch == '>')
      else if isBlankOrEnd ch || isIndicator ch then
        let _ ← peek 1
        malformed
      else readPlainScalar

/-- Passes over a byte order mark at the beginning of the stream. -/
def skipByteOrderMark : Read Unit := do
  let c ← get
  if c.index = 0 && c.head == '\ufeff' then forward

/-- Reads the next token, with those that it brings about: whether there can be
more. -/
def readToken : Read Bool := do
  dropStaleCandidates
  skipByteOrderMark
  skipToToken ((← get).rest.length + 1)
  dropStaleCandidates
  closeBlocks (← get).column
  let c ← get
  if c.rest.isEmpty then
    endBlocks
    emit .streamEnd
    return false
  else
    readTokenAt c
    return true

/-- Reads tokens up to the end of the stream, or to the place where it ceases to
make sense. -/
def readTokens : Nat → Cursor → List Token
  | 0, c => c.tokens.reverse
  | fuel + 1, c =>
    match readToken.run c with
    | .error flaw => c.settled ++ [.flaw flaw]
    | .ok (true, c) => readTokens fuel c
    | .ok (false, c) => c.tokens.reverse

/-- The tokens of a stream, which may begin with a byte order mark. -/
def Token.ofStream (stream : Stream) : List Token :=
  readTokens (stream.readable.length + 2) { rest := stream.readable, beyond := stream.beyond }

end IdMint.Yaml
