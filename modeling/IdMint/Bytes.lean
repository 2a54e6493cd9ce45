import IdMint.Text.Basic

/-!
# Byte strings

Byte strings as lists, with the two readings of them that the identifiers rest
on: the big-endian number that a digest stands for, and the little-endian words
that clock, counter and process id are packed into. Packing is defined by one
digit at a time, so that it makes sense for every integer: the bytes of
`packLittle n v` are the last `n` base-256 digits of `v`, in two's complement
where `v` is negative.
-/

namespace IdMint

/-- A byte string. -/
abbrev Bytes := List UInt8

namespace Bytes

/-- The big-endian unsigned number that a byte string denotes; the empty one
denotes zero. -/
def toNatBig (bytes : Bytes) : Nat := bytes.foldl (fun n b => 256 * n + b.toNat) 0

/-- The little-endian unsigned number that a byte string denotes. -/
def toNatLittle : Bytes → Nat
  | [] => 0
  | b :: rest => b.toNat + 256 * toNatLittle rest

/-- The little-endian two's complement number that a byte string denotes. -/
def toIntLittle (bytes : Bytes) : Int :=
  if 2 * toNatLittle bytes < Nat.pow 256 bytes.length then toNatLittle bytes
  else (toNatLittle bytes : Int) - Nat.pow 256 bytes.length

/-- The last `width` base-256 digits of an integer, the lowest first. -/
def packLittle : Nat → Int → Bytes
  | 0, _ => []
  | width + 1, v => UInt8.ofNat (v % 256).toNat :: packLittle width (v / 256)

/-- Eight little-endian bytes: an integer modulo `2 ^ 64`. -/
def pack64 (v : Int) : Bytes := packLittle 8 v

/-- Four little-endian bytes: an integer modulo `2 ^ 32`. -/
def pack32 (v : Int) : Bytes := packLittle 4 v

/-- Two lower-case hexadecimal digits for every byte. -/
def hex (bytes : Bytes) : Text := bytes.flatMap fun b => Text.hex 2 b.toNat

/-- Byte order, shorter strings before their extensions. -/
def le : Bytes → Bytes → Bool
  | [], _ => true
  | _ :: _, [] => false
  | a :: s, b :: t => if a < b then true else if b < a then false else le s t

@[simp] theorem length_packLittle (width : Nat) (v : Int) : (packLittle width v).length = width := by
  induction width generalizing v with
  | zero => rfl
  | succ width ih => simp [packLittle, ih]

@[simp] theorem length_pack64 (v : Int) : (pack64 v).length = 8 := length_packLittle 8 v

@[simp] theorem length_pack32 (v : Int) : (pack32 v).length = 4 := length_packLittle 4 v

end Bytes

end IdMint
