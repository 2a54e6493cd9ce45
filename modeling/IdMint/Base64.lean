import IdMint.Bytes

/-!
# Base 64

Reading base 64 leniently: a character outside the alphabet counts for nothing,
and so does a padding character where no group of four can end. Only a group
that is cut short makes a text unreadable.
-/

namespace IdMint.Base64

/-- The six bits that a character stands for. -/
def sextet? (c : CodePoint) : Option Nat :=
  if 0x41 ≤ c.val && c.val ≤ 0x5A then some (c.val - 0x41)
  else if 0x61 ≤ c.val && c.val ≤ 0x7A then some (c.val - 0x61 + 26)
  else if 0x30 ≤ c.val && c.val ≤ 0x39 then some (c.val - 0x30 + 52)
  else if c.is '+' then some 62
  else if c.is '/' then some 63
  else none

/-- The whole bytes in a group of up to four sextets; bits left over are
dropped. -/
def groupBytes : List Nat → Bytes
  | [a, b] => [UInt8.ofNat (4 * a + b / 16)]
  | [a, b, c] => [UInt8.ofNat (4 * a + b / 16), UInt8.ofNat (16 * (b % 16) + c / 4)]
  | [a, b, c, d] =>
    [UInt8.ofNat (4 * a + b / 16), UInt8.ofNat (16 * (b % 16) + c / 4),
      UInt8.ofNat (64 * (c % 4) + d)]
  | _ => []

/-- `decode?`, within a group: its sextets so far, and how much padding has come
since the last. -/
def decodeFrom? (group : List Nat) (padding : Nat) : Text → Option Bytes
  | [] => if group.isEmpty then some [] else none
  | c :: rest =>
    if c.is '=' then
      if group.length < 2 then decodeFrom? group padding rest
      else if 4 ≤ group.length + (padding + 1) then some (groupBytes group)
      else decodeFrom? group (padding + 1) rest
    else match sextet? c with
      | none => decodeFrom? group padding rest
      | some s =>
        let group := group ++ [s]
        if group.length < 4 then decodeFrom? group 0 rest
        else (decodeFrom? [] 0 rest).map (groupBytes group ++ ·)

/-- The bytes that a text stands for. Nothing is read after the padding of the
last group. -/
def decode? (t : Text) : Option Bytes := decodeFrom? [] 0 t

end IdMint.Base64
