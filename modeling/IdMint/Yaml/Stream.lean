import IdMint.Document
import IdMint.Yaml.Character

/-!
# Streams

A stream is read in portions, and whether a portion is any good is known only
once it is reached. A document that breaks a rule before that place is refused
for that reason, whatever comes later; so a stream is the characters of its good
portions, together with the flaw of the first bad one.
-/

namespace IdMint.Yaml

/-- A stream of characters, as far as it is good. -/
structure Stream where
  readable : List Char
  /-- The flaw of what follows, unless the stream ends. -/
  beyond : Option Flaw := none

namespace Stream

/-- The size of a portion. -/
def portionSize : Nat := 4096

/-- Reads a number of portions. -/
def readPortions : Nat → Reader → Except Utf8.Undecodable (List Char × Reader)
  | 0, r => .ok ([], r)
  | count + 1, r => do
    let (chars, r) ← r.read portionSize
    let (more, r) ← readPortions count r
    return (chars ++ more, r)

/-- The stream in the rest of a file. A number of portions are judged together
first, and each one that follows on its own. -/
def ofReader : Nat → Nat → Reader → Stream
  | 0, _, _ => { readable := [] }
  | fuel + 1, count, r =>
    match readPortions count r with
    | .error defect => { readable := [], beyond := some (.fault (.undecodable defect)) }
    | .ok ([], _) => { readable := [] }
    | .ok (chars, r) =>
      if chars.all isAllowed then
        let more := ofReader fuel 1 r
        { more with readable := chars ++ more.readable }
      else { readable := [], beyond := some .malformed }

/-- The stream in a file that has just been opened. Its first two portions are
judged together. -/
def ofFile (file : Reader) : Stream := ofReader (file.ahead.length + 2) 2 file

end Stream

end IdMint.Yaml
