import IdMint.Generator
import IdMint.Session

/-!
# The service of one program

A program that does not care for generators of its own uses one that is shared
by all of it: it is created when the first identifier is asked for, over the
operating system, with the clock on the wall. A service is a world with one
platform, the operating system, and that generator once it exists.
-/

namespace IdMint

/-- A world over one operating system, with the place of its shared generator
once it exists. -/
structure Service where
  world : World
  shared : Option Nat := none

namespace Service

variable {α : Type}

/-- The service over an operating system whose clock shows nanoseconds. Its
random integers are made of random bytes. -/
def start (system : Platform) (nanoseconds : Nat → Int) (primitive : HashPrimitive)
    (stopwatch : Stopwatch) : Service where
  world := {
    platforms := [{ system with integerSource := .stream }]
    states := []
    generators := []
    wallClock := { reading := fun n => ticks (nanoseconds n) }
    primitive
    stopwatch }

/-- Performs an action on the world. -/
def onWorld (act : Act World α) : Act Service α :=
  act.within (·.world) fun w s => { s with world := w }

/-- Performs an action on the operating system. -/
def onSystem (act : Act Platform α) : Act Service α := onWorld (World.onPlatform 0 act)

/-- Creates a generator with a state of its own. -/
def createGenerator : Act Service Nat := onWorld do
  let state ← World.createState 0
  World.createGenerator 0 state none

/-- The place of the shared generator, which is created on first use. -/
def sharedGenerator : Act Service Nat := do
  match (← Act.state).shared with
  | some g => pure g
  | none =>
    let g ← createGenerator
    Act.change fun s => { s with shared := some g }
    pure g

/-- Asks the shared generator for an identifier; failures that callers are
promised are outcomes. -/
def tryGenerate (length : Value) : Act Service Outcome := do
  let g ← sharedGenerator
  onWorld (World.tryGenerate g length)

/-- Asks the shared generator for an identifier; every failure is a fault. -/
def generate (length : Value) : Act Service Text := do
  let g ← sharedGenerator
  onWorld (World.generate g length)

/-- Asks a generator created for this one request. -/
def generateAfresh (length : Value) : Act Service Text := do
  let g ← createGenerator
  onWorld (World.generate g length)

/-- Reads the clock on the wall. -/
def readTicks : Act Service Int :=
  onWorld (Clock.read.within (·.wallClock) fun c w => { w with wallClock := c })

/-- The environment, each variable once. -/
def environment : Act Service (List (Text × Text)) := do
  let pairs ← onSystem Platform.readEnvironment
  pure (Environment.unique pairs)

/-- Changes the operating system. -/
def changeSystem (change : PlatformChange) : Act Service Unit :=
  onSystem (Act.change fun p => p.changed { change with integerSource := none })

end Service

end IdMint
