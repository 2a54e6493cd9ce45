import IdMint.Bytes

/-!
# UTF-8

`encode` writes a text as bytes. A surrogate `U+DC80 … U+DCFF` becomes the
single byte that it stands for; any other surrogate has no encoding, and the
failure names the stretch of surrogates from the first offender to the end of
its run.

`decode` reads bytes. It is strict: overlong forms, encoded surrogates and code
points past `U+10FFFF` are refused, at the first byte that rules the text out.
`decodeBlock` does the same where more bytes may follow, so that a character may
be cut off at the end.
-/

namespace IdMint.Utf8

/-- The bytes of one code point, by the general pattern of UTF-8. -/
def encodeCodePoint (c : CodePoint) : Bytes :=
  let n := c.val
  let continuation (k : Nat) : UInt8 := UInt8.ofNat (0x80 + n / Nat.pow 64 k % 64)
  if n < 0x80 then [UInt8.ofNat n]
  else if n < 0x800 then [UInt8.ofNat (0xC0 + n / 64), continuation 0]
  else if n < 0x10000 then [UInt8.ofNat (0xE0 + n / 0x1000), continuation 1, continuation 0]
  else [UInt8.ofNat (0xF0 + n / 0x40000), continuation 2, continuation 1, continuation 0]

/-- Why a text has no encoding: the stretch of surrogates from the first one
that stands for no byte to the end of its run. -/
structure Unencodable where
  /-- The place of the offender in the text. -/
  position : Nat
  /-- The offender. -/
  offender : CodePoint
  /-- How many surrogates follow it without a gap. -/
  following : Nat
deriving DecidableEq, Repr

/-- The wording of a failed encoding. -/
def Unencodable.message (e : Unencodable) : Text :=
  if e.following = 0 then
    Text.concat ["'utf-8' codec can't encode character '\\u", Text.hex 4 e.offender.val,
      "' in position ", Text.ofNat e.position, ": surrogates not allowed"]
  else
    Text.concat ["'utf-8' codec can't encode characters in position ", Text.ofNat e.position, "-",
      Text.ofNat (e.position + e.following), ": surrogates not allowed"]

/-- `encode`, for a text that starts at a given place of a longer one. -/
def encodeFrom (position : Nat) : Text → Except Unencodable Bytes
  | [] => .ok []
  | c :: rest =>
    if c.isEscapedByte then
      (encodeFrom (position + 1) rest).map (UInt8.ofNat (c.val - 0xDC00) :: ·)
    else if c.isSurrogate then
      .error ⟨position, c, (rest.takeWhile (·.isSurrogate)).length⟩
    else
      (encodeFrom (position + 1) rest).map (encodeCodePoint c ++ ·)

/-- The bytes of a text. -/
def encode (t : Text) : Except Unencodable Bytes := encodeFrom 0 t

/-- What is wrong with a byte sequence. -/
inductive Defect
  /-- No character starts with this byte. -/
  | startByte
  /-- The character that was begun does not go on with this byte. -/
  | continuationByte
  /-- The bytes end inside a character. -/
  | unexpectedEnd
deriving DecidableEq, Repr

/-- Why bytes are no text. -/
structure Undecodable where
  defect : Defect
  /-- The place of the first byte of the character among the bytes that are
  decoded together. -/
  position : Nat
  /-- The first byte of the character. -/
  first : UInt8
  /-- How many bytes of the character had been accepted. -/
  accepted : Nat
deriving DecidableEq, Repr

/-- The wording of a defect. -/
def Defect.message : Defect → Text
  | .startByte => "invalid start byte"
  | .continuationByte => "invalid continuation byte"
  | .unexpectedEnd => "unexpected end of data"

/-- The wording of a failed decoding. -/
def Undecodable.message (e : Undecodable) : Text :=
  let place : Text :=
    if e.accepted ≤ 1 then
      Text.concat ["byte 0x", Text.hex 2 e.first.toNat, " in position ", Text.ofNat e.position]
    else
      Text.concat ["bytes in position ", Text.ofNat e.position, "-",
        Text.ofNat (e.position + e.accepted - 1)]
  Text.concat ["'utf-8' codec can't decode ", place, ": ", e.defect.message]

/-- A character that has been begun. -/
structure Begun where
  /-- The place of its first byte. -/
  position : Nat
  first : UInt8
  /-- The bytes after the first one. -/
  more : Bytes
  /-- The bits read so far. -/
  bits : Nat
  /-- How many bytes are missing. -/
  missing : Nat
  /-- The least and the greatest byte that may come next. -/
  least : UInt8
  greatest : UInt8

/-- The bytes of a character that has been begun. -/
def Begun.bytes (p : Begun) : Bytes := p.first :: p.more

/-- The character that a byte of at least `0x80` begins. -/
def begin? (position : Nat) (b : UInt8) : Option Begun :=
  if 0xC2 ≤ b && b ≤ 0xDF then some ⟨position, b, [], b.toNat - 0xC0, 1, 0x80, 0xBF⟩
  else if b == 0xE0 then some ⟨position, b, [], 0, 2, 0xA0, 0xBF⟩
  else if b == 0xED then some ⟨position, b, [], 0xD, 2, 0x80, 0x9F⟩
  else if 0xE1 ≤ b && b ≤ 0xEF then some ⟨position, b, [], b.toNat - 0xE0, 2, 0x80, 0xBF⟩
  else if b == 0xF0 then some ⟨position, b, [], 0, 3, 0x90, 0xBF⟩
  else if 0xF1 ≤ b && b ≤ 0xF3 then some ⟨position, b, [], b.toNat - 0xF0, 3, 0x80, 0xBF⟩
  else if b == 0xF4 then some ⟨position, b, [], 4, 3, 0x80, 0x8F⟩
  else none

/-- The first two bytes of an encoded surrogate. No character has them, but
where a block ends with them, judgement is put off until more is known. -/
def isSurrogateHead : Bytes → Bool
  | [first, second] => first == 0xED && 0xA0 ≤ second && second ≤ 0xBF
  | _ => false

/-- `decodeBlock`, from the middle of a block: between characters, or inside one
that has been begun. -/
def decodeFrom (position : Nat) : Option Begun → Bytes → Except Undecodable (List Char × Bytes)
  | none, [] => .ok ([], [])
  | some p, [] => .ok ([], p.bytes)
  | none, b :: rest =>
    if b < 0x80 then do
      let (chars, begun) ← decodeFrom (position + 1) none rest
      return (Char.ofNat b.toNat :: chars, begun)
    else match begin? position b with
      | none => .error ⟨.startByte, position, b, 1⟩
      | some p => decodeFrom (position + 1) (some p) rest
  | some p, b :: rest =>
    if p.least ≤ b && b ≤ p.greatest then
      let bits := 64 * p.bits + (b.toNat - 0x80)
      if p.missing ≤ 1 then do
        let (chars, begun) ← decodeFrom (position + 1) none rest
        return (Char.ofNat bits :: chars, begun)
      else decodeFrom (position + 1)
        (some ⟨p.position, p.first, p.more ++ [b], bits, p.missing - 1, 0x80, 0xBF⟩) rest
    else if rest.isEmpty && isSurrogateHead (p.bytes ++ [b]) then .ok ([], p.bytes ++ [b])
    else .error ⟨.continuationByte, p.position, p.first, p.bytes.length⟩

/-- The characters of a block of bytes, and the bytes at its end that are no
character yet. -/
def decodeBlock (bytes : Bytes) : Except Undecodable (List Char × Bytes) := decodeFrom 0 none bytes

/-- The characters of bytes after which nothing comes. -/
def decode (bytes : Bytes) : Except Undecodable (List Char) := do
  let (chars, begun) ← decodeBlock bytes
  let position := bytes.length - begun.length
  match begun with
  | [] => return chars
  | first :: _ =>
    if isSurrogateHead begun then throw ⟨.continuationByte, position, first, 1⟩
    else throw ⟨.unexpectedEnd, position, first, begun.length⟩

end IdMint.Utf8
