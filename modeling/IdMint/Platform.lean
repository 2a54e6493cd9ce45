import IdMint.Act

/-!
# Platforms

The operating system as the generator sees it: random bytes, a random integer, a
host name, a process id and an environment. A platform is a value; asking it for
something is an action on it that moves its stream of random bytes on and counts
the calls.

A platform's random integer is either given or read from the stream of random
bytes, as eight bytes in two's complement, the lowest first. The second way is
that of a real operating system, which has one source of randomness only.
-/

namespace IdMint

/-- Where random integers come from. -/
inductive IntegerSource
  /-- It is this integer, every time, whatever its size. -/
  | given (n : Int)
  /-- It is made of the next eight random bytes. -/
  | stream
deriving DecidableEq, Repr

/-- How often a platform has been asked, and for how many bytes. -/
structure Draws where
  integers : Nat := 0
  byteStrings : Nat := 0
  bytes : Nat := 0
  hostNames : Nat := 0
  environments : Nat := 0
deriving DecidableEq, Repr

/-- An operating system. -/
structure Platform where
  integerSource : IntegerSource
  hostName : Except Fault Text
  processId : Int
  /-- The environment, as pairs of a name and a value. -/
  environment : List (Text × Text)
  /-- The random bytes, in the order in which they are served. -/
  stream : Nat → UInt8
  /-- How many of them have been served. -/
  position : Nat := 0
  draws : Draws := {}

namespace Platform

instance : Inhabited Platform := ⟨⟨.given 0, .ok [], 0, [], fun _ => 0, 0, {}⟩⟩

/-- The next `n` random bytes. -/
def upcoming (p : Platform) (n : Nat) : Bytes := (List.range' p.position n).map p.stream

/-- Asks for `n` random bytes. -/
def randomBytes (n : Nat) : Act Platform Bytes := fun p =>
  ⟨.ok (p.upcoming n),
    { p with
      position := p.position + n
      draws := { p.draws with
        byteStrings := p.draws.byteStrings + 1
        bytes := p.draws.bytes + n } },
    []⟩

/-- Asks for a random integer. -/
def randomInteger : Act Platform Int := fun p =>
  match p.integerSource with
  | .given n =>
    ⟨.ok n, { p with draws := { p.draws with integers := p.draws.integers + 1 } }, []⟩
  | .stream =>
    let r := randomBytes 8 p
    ⟨r.answer.map Bytes.toIntLittle, r.state, r.entries⟩

/-- Asks for the host name; the platform may refuse. -/
def lookUpHostName : Act Platform Text := fun p =>
  ⟨p.hostName, { p with draws := { p.draws with hostNames := p.draws.hostNames + 1 } }, []⟩

/-- Asks for the environment. -/
def readEnvironment : Act Platform (List (Text × Text)) := fun p =>
  ⟨.ok p.environment,
    { p with draws := { p.draws with environments := p.draws.environments + 1 } }, []⟩

@[simp] theorem length_upcoming (p : Platform) (n : Nat) : (p.upcoming n).length = n := by
  simp [upcoming]

end Platform

end IdMint
