import IdMint.Value.Literal
import IdMint.Base36
import IdMint.Sha3

/-!
# Identifiers

An identifier is a lower-case letter followed by the first digits, in base 36,
of a digest. The digest is that of the time, a counter value, a fingerprint and
random bytes, one after another; together with the byte that picks the letter they
are a draft. This module holds the rules: which lengths are acceptable, what is
hashed, what counts as a digest, and how the digest is cut to length.
-/

namespace IdMint

/-- The length of an identifier for which no other length is asked. -/
def defaultLength : Nat := 24

/-- The least length of an identifier. -/
def minLength : Nat := 4

/-- The greatest length of an identifier. -/
def maxLength : Nat := 32

/-- The number of letters that an identifier starts with. -/
def letterCount : Nat := 1

/-- The number of bytes of a digest. -/
def digestSize : Nat := 64

/-- The number of nanoseconds in a tick of the clock. -/
def nanosecondsPerTick : Int := 100

/-- The ticks of the clock since the epoch, at a time in nanoseconds. -/
def ticks (nanoseconds : Int) : Int := nanoseconds / nanosecondsPerTick

/-- An acceptable length. -/
structure Length where
  val : Nat
  le_val : minLength ≤ val := by decide
  val_le : val ≤ maxLength := by decide
deriving DecidableEq

namespace Length

/-- Why a value is no acceptable length. -/
inductive Rejection
  | notAnInteger
  | outOfRange (n : Int)
deriving DecidableEq, Repr

/-- The acceptable length that an integer is. -/
def ofInt (n : Int) : Except Rejection Length :=
  if h : (minLength : Int) ≤ n ∧ n ≤ maxLength then
    .ok ⟨n.toNat, by omega, by omega⟩
  else .error (.outOfRange n)

/-- The acceptable length that a value stands for. -/
def ofValue (v : Value) : Except Rejection Length :=
  match v.index? with
  | some n => ofInt n
  | none => .error .notAnInteger

/-- The wording of a rejection, which fails if the integer is too long to be
written. -/
def Rejection.message : Rejection → Except Fault Text
  | notAnInteger =>
    .ok (Text.concat ["length must be an integer between ", Text.ofNat minLength, " and ",
      Text.ofNat maxLength])
  | outOfRange n =>
    (Value.integer n).map fun numeral =>
      Text.concat ["length must be between ", Text.ofNat minLength, " and ", Text.ofNat maxLength,
        ", got ", numeral]

end Length

/-- What a length is checked for: the wording of its rejection, if it is
rejected. -/
def checkLength (length : Value) : Except Fault (Option Text) :=
  match Length.ofValue length with
  | .ok _ => .ok none
  | .error rejection => rejection.message.map some

/-- A way to hash, which may fail and need not give a digest of the right size. -/
abbrev HashPrimitive := Bytes → Except Fault Bytes

/-- The primitive of the program: SHA3-512, which never fails. -/
def HashPrimitive.sha3 : HashPrimitive := fun bytes => .ok (Sha3.digest bytes)

namespace Identifier

/-- What is hashed. -/
def hashInput (timestamp counter : Int) (fingerprint random : Bytes) : Bytes :=
  Bytes.pack64 timestamp ++ Bytes.pack64 counter ++ fingerprint ++ random

/-- The digest of a byte string. A primitive that rejects its input and one that
gives a digest of the wrong size fail in a way that callers are promised; any
other fault of it is passed on. -/
def digest (primitive : HashPrimitive) (bytes : Bytes) : Except Fault Bytes :=
  match primitive bytes with
  | .error fault =>
    if fault.isRejectedValue then
      .error (.cryptoFailure (Text.concat ["SHA3-512 hashing failed: ", fault.message]))
    else .error fault
  | .ok digest =>
    if digest.length = digestSize then .ok digest
    else .error (.cryptoFailure (Text.concat ["SHA3-512 returned ", Text.ofNat digest.length,
      " bytes, expected ", Text.ofNat digestSize]))

/-- The first `count` code points of a text; a negative `count` leaves that many
out at the end. -/
def cut (count : Int) (t : Text) : Text :=
  t.take (if 0 ≤ count then count else t.length + count).toNat

/-- A letter and as many digits as the length asks for. -/
def format (letter encoded : Text) (length : Int) : Except Fault Text :=
  let needed := length - letterCount
  if encoded.length < needed then
    .error (.cryptoFailure (Text.concat ["encoded digest has ", Text.ofNat encoded.length,
      " characters, need ", Text.ofInt needed]))
  else .ok (letter ++ cut needed encoded)

/-- The letter for a random number. -/
def letter (random : Int) : Text := [Fin.ofNat 0x110000 (0x61 + (random % 26).toNat)]

/-- The identifier for a letter and the bytes to hash. -/
def make (primitive : HashPrimitive) (letter : Text) (bytes : Bytes) (length : Length) :
    Except Fault Text := do
  let hashed ← digest primitive bytes
  format letter (Base36.encode hashed) length.val

end Identifier

/-- What has been gathered for an identifier before anything is hashed. -/
structure Draft where
  timestamp : Int
  counter : Int
  fingerprint : Bytes
  random : Bytes
  /-- The random number that the letter is picked by. -/
  pick : Int
deriving DecidableEq

namespace Draft

/-- The bytes that are handed to the hash primitive. -/
def input (d : Draft) : Bytes :=
  Identifier.hashInput d.timestamp d.counter d.fingerprint d.random

/-- The letter in front. -/
def letter (d : Draft) : Text := Identifier.letter d.pick

/-- The identifier that comes of a draft, or why there is none. -/
def make (d : Draft) (primitive : HashPrimitive) (length : Length) : Except Fault Text :=
  Identifier.make primitive d.letter d.input length

end Draft

end IdMint
