import IdMint.Counter
import IdMint.Fingerprint
import IdMint.Outcome
import IdMint.Journal.Stopwatch

/-!
# Worlds of generators

Several generators may share a state, and several states a platform. A world
holds all of them in lists, and they refer to each other by their places, so
that sharing is visible and an action on one generator is an action on the
world.

A state is created over a platform and holds a counter and a fingerprint, each
set up when it is first needed and kept from then on. A generator has a platform
of its own, for random bytes, which need not be that of its state.
-/

namespace IdMint

/-- A clock that shows ticks: what it will show, how often it has been read
since it was set, and how often altogether. -/
structure Clock where
  reading : Nat → Int
  position : Nat := 0
  calls : Nat := 0

/-- Reads a clock. -/
def Clock.read : Act Clock Int := fun c =>
  ⟨.ok (c.reading c.position), { c with position := c.position + 1, calls := c.calls + 1 }, []⟩

/-- What generators share: a counter and a fingerprint, over the platform at a
place. -/
structure GeneratorState where
  platform : Nat
  counter : Counter := {}
  fingerprint : Option Bytes := none

/-- A generator: the places of its platform and its state, and its clock, unless
it goes by that on the wall. -/
structure Generator where
  platform : Nat
  state : Nat
  clock : Option Clock := none

instance : Inhabited Clock := ⟨{ reading := fun _ => 0 }⟩
instance : Inhabited GeneratorState := ⟨{ platform := 0 }⟩
instance : Inhabited Generator := ⟨{ platform := 0, state := 0 }⟩

/-- Generators with all that they work with. -/
structure World where
  platforms : List Platform
  states : List GeneratorState
  generators : List Generator
  wallClock : Clock
  primitive : HashPrimitive
  stopwatch : Stopwatch

namespace World

/-- The platform at a place. -/
def platform (w : World) (i : Nat) : Platform := w.platforms.getD i default

/-- The generator state at a place. -/
def state (w : World) (i : Nat) : GeneratorState := w.states.getD i default

/-- The generator at a place. -/
def generator (w : World) (i : Nat) : Generator := w.generators.getD i default

/-- Replaces the platform at a place. -/
def setPlatform (w : World) (i : Nat) (p : Platform) : World :=
  { w with platforms := w.platforms.set i p }

/-- Replaces the generator state at a place. -/
def setState (w : World) (i : Nat) (s : GeneratorState) : World :=
  { w with states := w.states.set i s }

/-- Replaces the generator at a place. -/
def setGenerator (w : World) (i : Nat) (g : Generator) : World :=
  { w with generators := w.generators.set i g }

@[simp] theorem state_setPlatform (w : World) (i j : Nat) (p : Platform) :
    (w.setPlatform i p).state j = w.state j := rfl

@[simp] theorem generator_setPlatform (w : World) (i j : Nat) (p : Platform) :
    (w.setPlatform i p).generator j = w.generator j := rfl

@[simp] theorem platform_setState (w : World) (i j : Nat) (s : GeneratorState) :
    (w.setState i s).platform j = w.platform j := rfl

@[simp] theorem generator_setState (w : World) (i j : Nat) (s : GeneratorState) :
    (w.setState i s).generator j = w.generator j := rfl

theorem platform_setPlatform_self {w : World} {i : Nat} (p : Platform) (h : i < w.platforms.length) :
    (w.setPlatform i p).platform i = p := by
  simp [platform, setPlatform, h]

theorem platform_setPlatform_ne {w : World} {i j : Nat} (p : Platform) (h : i ≠ j) :
    (w.setPlatform i p).platform j = w.platform j := by
  simp [platform, setPlatform, List.getElem?_set_ne h]

theorem state_setState_self {w : World} {i : Nat} (s : GeneratorState) (h : i < w.states.length) :
    (w.setState i s).state i = s := by
  simp [state, setState, h]

theorem state_setState_ne {w : World} {i j : Nat} (s : GeneratorState) (h : i ≠ j) :
    (w.setState i s).state j = w.state j := by
  simp [state, setState, List.getElem?_set_ne h]

theorem generator_setGenerator_self {w : World} {i : Nat} (g : Generator)
    (h : i < w.generators.length) : (w.setGenerator i g).generator i = g := by
  simp [generator, setGenerator, h]

theorem generator_setGenerator_ne {w : World} {i j : Nat} (g : Generator) (h : i ≠ j) :
    (w.setGenerator i g).generator j = w.generator j := by
  simp [generator, setGenerator, List.getElem?_set_ne h]

/-- Putting a platform back where it stands changes nothing. -/
@[simp] theorem setPlatform_platform (w : World) (i : Nat) : w.setPlatform i (w.platform i) = w := by
  by_cases h : i < w.platforms.length
  · simp [setPlatform, platform, h]
  · simp [setPlatform, List.set_eq_of_length_le (Nat.not_lt.mp h)]

/-- Putting a generator state back where it stands changes nothing. -/
@[simp] theorem setState_state (w : World) (i : Nat) : w.setState i (w.state i) = w := by
  by_cases h : i < w.states.length
  · simp [setState, state, h]
  · simp [setState, List.set_eq_of_length_le (Nat.not_lt.mp h)]

/-- Creates a state over a platform, with nothing set up, and gives its place. -/
def createState (platform : Nat) : Act World Nat := fun w =>
  ⟨.ok w.states.length, { w with states := w.states ++ [{ platform }] }, []⟩

/-- Creates a generator and gives its place. -/
def createGenerator (platform state : Nat) (clock : Option Clock) : Act World Nat := fun w =>
  ⟨.ok w.generators.length, { w with generators := w.generators ++ [{ platform, state, clock }] }, []⟩

variable {α : Type}

/-- Performs an action on the platform at a place. -/
def onPlatform (i : Nat) (act : Act Platform α) : Act World α :=
  act.within (·.platform i) fun p w => w.setPlatform i p

/-- Reads the stopwatch. -/
def readStopwatch : Act World Float :=
  Stopwatch.read.within (·.stopwatch) fun s w => { w with stopwatch := s }

/-- The clock of a generator. -/
def clock (w : World) (g : Nat) : Clock := (w.generator g).clock.getD w.wallClock

/-- Replaces the clock of a generator. -/
def setClock (g : Nat) (c : Clock) (w : World) : World :=
  let generator := w.generator g
  if generator.clock.isSome then w.setGenerator g { generator with clock := some c }
  else { w with wallClock := c }

theorem setClock_of_own {w : World} {g : Nat} (c : Clock)
    (h : (w.generator g).clock.isSome = true) :
    setClock g c w = w.setGenerator g { w.generator g with clock := some c } := by
  simp only [setClock, h, if_true]

theorem setClock_of_wall {w : World} {g : Nat} (c : Clock)
    (h : ¬(w.generator g).clock.isSome = true) : setClock g c w = { w with wallClock := c } := by
  simp only [setClock, h, if_false, Bool.false_eq_true]

/-- Only a generator that exists has a clock of its own. -/
theorem lt_of_clock_isSome {w : World} {g : Nat} (h : (w.generator g).clock.isSome = true) :
    g < w.generators.length := by
  apply Nat.lt_of_not_le
  intro hout
  have hdefault : w.generator g = default := by
    simp only [generator, List.getD_eq_getElem?_getD, List.getElem?_eq_none hout, Option.getD_none]
  rw [hdefault] at h
  cases h

/-- The clock that has been put in place is the one in place. -/
@[simp] theorem clock_setClock (w : World) (g : Nat) (c : Clock) : (setClock g c w).clock g = c := by
  by_cases hown : (w.generator g).clock.isSome = true
  · rw [setClock_of_own c hown, clock, generator_setGenerator_self _ (lt_of_clock_isSome hown)]
    rfl
  · rw [setClock_of_wall c hown]
    show (w.generator g).clock.getD c = c
    rw [Option.not_isSome_iff_eq_none.mp hown]
    rfl

@[simp] theorem platforms_setClock (w : World) (g : Nat) (c : Clock) :
    (setClock g c w).platforms = w.platforms := by
  simp only [setClock]
  split <;> rfl

@[simp] theorem states_setClock (w : World) (g : Nat) (c : Clock) :
    (setClock g c w).states = w.states := by
  simp only [setClock]
  split <;> rfl

@[simp] theorem primitive_setClock (w : World) (g : Nat) (c : Clock) :
    (setClock g c w).primitive = w.primitive := by
  simp only [setClock]
  split <;> rfl

/-- Setting a clock leaves every generator its platform and its state. -/
theorem places_setClock (w : World) (g j : Nat) (c : Clock) :
    ((setClock g c w).generator j).platform = (w.generator j).platform ∧
      ((setClock g c w).generator j).state = (w.generator j).state := by
  by_cases hown : (w.generator g).clock.isSome = true
  · rw [setClock_of_own c hown]
    by_cases hj : g = j
    · subst hj
      rw [generator_setGenerator_self _ (lt_of_clock_isSome hown)]
      exact ⟨rfl, rfl⟩
    · rw [generator_setGenerator_ne _ hj]
      exact ⟨rfl, rfl⟩
  · rw [setClock_of_wall c hown]
    exact ⟨rfl, rfl⟩

/-- Reads the clock of a generator. -/
def readClock (g : Nat) : Act World Int := Clock.read.within (·.clock g) (setClock g)

/-- Hands out the next value of the counter of a state, which is seeded first if
need be. -/
def nextCount (s : Nat) : Act World Int := do
  let w ← Act.state
  let state := w.state s
  let current ← onPlatform state.platform state.counter.current
  Act.change fun w => w.setState s { w.state s with counter := ⟨some (counterAfter current)⟩ }
  pure current

/-- Computes a fingerprint and keeps it. If the computation fails, nothing is
kept. -/
def setUpFingerprint (s : Nat) : Act World Bytes := do
  let w ← Act.state
  let computed ← Stopwatch.timed readStopwatch "fingerprint_compute" Stopwatch.defaultPatience
    (onPlatform (w.state s).platform Fingerprint.compute)
  Act.note .debug "fingerprint_ready" [("size", .int computed.length)]
  Act.change fun w => w.setState s { w.state s with fingerprint := some computed }
  pure computed

/-- The fingerprint of a state, which is computed if that has not been done. -/
def fingerprint (s : Nat) : Act World Bytes := do
  let w ← Act.state
  match (w.state s).fingerprint with
  | some bytes => pure bytes
  | none => setUpFingerprint s

end World

end IdMint
