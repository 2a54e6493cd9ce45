import IdMint.Text.Utf8

/-!
# Reading a file of text

The characters of a file are asked for in portions, and the bytes are fetched
and decoded in blocks. Where the bytes are UTF-8 throughout, none of this shows.
Where they are not, it decides two things: a defect comes to light only when its
block is fetched, so that portions before it are given out nevertheless, and its
place is counted from the first of the bytes that are decoded together, which
are the block and what the block before it left of a character.

The line ends of other systems become line feeds. A carriage return at the end
of a block waits for the next block, in which a line feed may follow.
-/

namespace IdMint

/-- Replaces the line ends of other systems by line feeds. -/
def normaliseLineEnds : List Char → List Char
  | '\r' :: '\n' :: rest => '\n' :: normaliseLineEnds rest
  | '\r' :: rest => '\n' :: normaliseLineEnds rest
  | c :: rest => c :: normaliseLineEnds rest
  | [] => []

/-- How far the reading of a file has come. -/
structure Reader where
  /-- The bytes that have not been fetched. -/
  ahead : Bytes
  /-- The bytes at the end of the last block that are no character yet. -/
  begun : Bytes := []
  /-- The last block ended with a carriage return. -/
  afterReturn : Bool := false
  /-- The characters that have been decoded and not been given out. -/
  ready : List Char := []
  /-- How many bytes the last block had, and how many characters came of it. -/
  lastBytes : Nat := 0
  lastChars : Nat := 0

namespace Reader

/-- A file of some bytes that has just been opened. -/
def opened (bytes : Bytes) : Reader := { ahead := bytes }

/-- The least size of a block. -/
def blockSize : Nat := 8192

/-- The size of the next block. It is greater than usual if, going by the last
block, that many bytes would not do for the characters that are wanted. -/
def nextSize (r : Reader) (wanted : Nat) : Nat :=
  max blockSize (r.lastBytes * wanted / r.lastChars)

/-- Nothing is left in the file. -/
def isDone (r : Reader) : Bool := r.ahead.isEmpty && r.begun.isEmpty && !r.afterReturn

/-- Fetches the next block, or takes notice of the end of the file. -/
def fetch (r : Reader) (wanted : Nat) : Except Utf8.Undecodable Reader := do
  let block := r.ahead.take (r.nextSize wanted)
  let (decoded, begun) ←
    if block.isEmpty then (·, []) <$> Utf8.decode r.begun
    else Utf8.decodeBlock (r.begun ++ block)
  let decoded := if r.afterReturn then '\r' :: decoded else decoded
  let afterReturn := !block.isEmpty && decoded.getLast? == some '\r'
  let chars := normaliseLineEnds (if afterReturn then decoded.dropLast else decoded)
  return {
    ahead := r.ahead.drop block.length
    begun
    afterReturn
    ready := r.ready ++ chars
    lastBytes := block.length
    lastChars := chars.length }

/-- Fetches blocks until a number of characters are there, or the file ends. -/
def gather (count : Nat) : Nat → Reader → Except Utf8.Undecodable Reader
  | 0, r => .ok r
  | fuel + 1, r =>
    if count ≤ r.ready.length || r.isDone then .ok r
    else do gather count fuel (← r.fetch (count - r.ready.length))

/-- Reads a number of characters, or as many as there are. -/
def read (r : Reader) (count : Nat) : Except Utf8.Undecodable (List Char × Reader) := do
  let r ← gather count (r.ahead.length + 2) r
  return (r.ready.take count, { r with ready := r.ready.drop count })

end Reader

end IdMint
