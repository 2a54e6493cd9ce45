import IdMint.Bytes

/-!
# SHA3-512

The hash function of FIPS 202 with a digest of 64 bytes: a sponge over the
permutation of 25 lanes of 64 bits, absorbing 72 bytes at a time. Lane
`x + 5 * y` of the state is the lane in column `x` and row `y` of the standard;
bytes fill the lanes in order, the lowest byte of a lane first.
-/

namespace IdMint.Sha3

/-- The state of the sponge. -/
abbrev State := Vector UInt64 25

/-- Lane `x + 5 * y`, coordinates taken modulo five. -/
def State.lane (s : State) (x y : Nat) : UInt64 :=
  s.get ⟨x % 5 + 5 * (y % 5), by omega⟩

/-- The state whose lane in column `x` and row `y` is `f x y`. -/
def State.ofLanes (f : Nat → Nat → UInt64) : State :=
  Vector.ofFn fun i => f (i.val % 5) (i.val / 5)

/-- Rotates a lane to the left. -/
def rotate (lane : UInt64) (n : Nat) : UInt64 :=
  if n = 0 then lane else lane <<< UInt64.ofNat n ||| lane >>> UInt64.ofNat (64 - n)

/-- How far each lane is rotated. -/
def rotations : Vector Nat 25 := #v[
  0, 1, 62, 28, 27,
  36, 44, 6, 55, 20,
  3, 10, 43, 25, 39,
  41, 45, 15, 21, 8,
  18, 2, 61, 56, 14]

/-- The constants of the twenty-four rounds. -/
def roundConstants : List UInt64 := [
  0x0000000000000001, 0x0000000000008082, 0x800000000000808A, 0x8000000080008000,
  0x000000000000808B, 0x0000000080000001, 0x8000000080008081, 0x8000000000008009,
  0x000000000000008A, 0x0000000000000088, 0x0000000080008009, 0x000000008000000A,
  0x000000008000808B, 0x800000000000008B, 0x8000000000008089, 0x8000000000008003,
  0x8000000000008002, 0x8000000000000080, 0x000000000000800A, 0x800000008000000A,
  0x8000000080008081, 0x8000000000008080, 0x0000000080000001, 0x8000000080008008]

/-- The parity of a column. -/
def State.parity (s : State) (x : Nat) : UInt64 :=
  s.lane x 0 ^^^ s.lane x 1 ^^^ s.lane x 2 ^^^ s.lane x 3 ^^^ s.lane x 4

/-- Adds to every lane the parities of two neighbouring columns. -/
def theta (s : State) : State :=
  let parities : Vector UInt64 5 := Vector.ofFn fun x => s.parity x.val
  let parity (x : Nat) : UInt64 := parities.get ⟨x % 5, by omega⟩
  State.ofLanes fun x y => s.lane x y ^^^ (parity (x + 4) ^^^ rotate (parity (x + 1)) 1)

/-- Rotates the lanes and moves them to their new places. -/
def rhoPi (s : State) : State :=
  State.ofLanes fun x y =>
    let source := (x + 3 * y) % 5
    rotate (s.lane source x) (rotations.get ⟨source % 5 + 5 * (x % 5), by omega⟩)

/-- Combines each lane with the next two of its row. -/
def chi (s : State) : State :=
  State.ofLanes fun x y => s.lane x y ^^^ (~~~ s.lane (x + 1) y &&& s.lane (x + 2) y)

/-- Adds a round constant to the first lane. -/
def iota (constant : UInt64) (s : State) : State :=
  s.set 0 (s[0] ^^^ constant)

/-- One round. -/
def round (s : State) (constant : UInt64) : State := iota constant (chi (rhoPi (theta s)))

/-- The permutation. -/
def permute (s : State) : State := roundConstants.foldl round s

/-- The number of bytes absorbed at a time. -/
def rate : Nat := 72

/-- The message with its padding, which fills the last block: a byte that marks
the domain and the start of the padding, zeros, and a one as the last bit. -/
def pad (message : Bytes) : Bytes :=
  let gap := rate - message.length % rate
  if gap = 1 then message ++ [0x86]
  else message ++ 0x06 :: List.replicate (gap - 2) 0 ++ [0x80]

/-- The lanes that a block fills. -/
def blockLane (block : Bytes) (i : Nat) : UInt64 :=
  UInt64.ofNat (Bytes.toNatLittle ((block.drop (8 * i)).take 8))

/-- Absorbs a block. -/
def absorb (s : State) (block : Bytes) : State :=
  permute (State.ofLanes fun x y => s.lane x y ^^^ blockLane block (x + 5 * y))

/-- The blocks of a padded message. -/
def blocks : Nat → Bytes → List Bytes
  | 0, _ => []
  | n + 1, message => message.take rate :: blocks n (message.drop rate)

/-- The state after a whole message. -/
def absorbAll (message : Bytes) : State :=
  let padded := pad message
  (blocks (padded.length / rate) padded).foldl absorb (Vector.replicate 25 0)

/-- The digest of a message. -/
def digest (message : Bytes) : Bytes :=
  let s := absorbAll message
  (List.range 8).flatMap fun i => Bytes.packLittle 8 (s.lane (i % 5) (i / 5)).toNat

/-- A digest has 64 bytes. -/
theorem length_digest (message : Bytes) : (digest message).length = 64 := by
  simp only [digest, List.length_flatMap, Bytes.length_packLittle]
  rfl

end IdMint.Sha3
