import IdMint.Platform

/-!
# The counter

A signed 64-bit counter that is seeded when it is first needed, from a random
integer times an odd factor, and that wraps from the greatest value to the
least. Since the factor is odd, distinct random integers of 64 bits give
distinct seeds.
-/

namespace IdMint

/-- The least and the greatest signed 64-bit integer. -/
def int64Min : Int := -0x8000000000000000

@[inherit_doc int64Min]
def int64Max : Int := 0x7FFFFFFFFFFFFFFF

/-- The signed 64-bit integer that is congruent to `v` modulo `2 ^ 64`. -/
def wrap64 (v : Int) : Int := (v - int64Min) % 0x10000000000000000 + int64Min

/-- The odd factor by which random integers are multiplied. -/
def seedFactor : Int := 476782367

/-- The seed made of a random integer. -/
def seedValue (random : Int) : Int := wrap64 (random * seedFactor)

/-- The value that a counter stores after it has handed out `current`. -/
def counterAfter (current : Int) : Int := if current = int64Max then int64Min else current + 1

/-- A counter: the value that it will hand out next, once it has been seeded. -/
structure Counter where
  stored : Option Int := none
deriving DecidableEq, Repr

namespace Counter

/-- The counter has been seeded. -/
def isSeeded (c : Counter) : Bool := c.stored.isSome

/-- Draws a seed and notes that down. -/
def seed : Act Platform Int := do
  let random ← Platform.randomInteger
  Act.note .debug "counter_seeded" []
  pure (seedValue random)

/-- The value to hand out: the stored one, or a fresh seed. -/
def current (c : Counter) : Act Platform Int :=
  match c.stored with
  | some n => pure n
  | none => seed

end Counter

end IdMint
