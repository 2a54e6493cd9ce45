import IdMint.Generator

/-!
# Sessions

A session is a list of steps in a world: requests to generators, looks at
counters and fingerprints, and changes of what surrounds them. The steps are
done one after another, a failure in one does not keep the next from being done,
and after each step one observes its result, what it noted down, and the state
of the generator that it was about.

Steps with several threads are done thread by thread. Each value of a counter
goes to one caller whatever the interleaving, and a sorted report of the results
does not show the order.
-/

namespace IdMint

/-- New values for some parts of a platform. A new stream of random bytes is
served from its start. -/
structure PlatformChange where
  integerSource : Option IntegerSource := none
  hostName : Option (Except Fault Text) := none
  processId : Option Int := none
  environment : Option (List (Text × Text)) := none
  stream : Option (Nat → UInt8) := none

/-- The platform after a change. -/
def Platform.changed (p : Platform) (change : PlatformChange) : Platform :=
  { p with
    integerSource := change.integerSource.getD p.integerSource
    hostName := change.hostName.getD p.hostName
    processId := change.processId.getD p.processId
    environment := change.environment.getD p.environment
    stream := change.stream.getD p.stream
    position := if change.stream.isSome then 0 else p.position }

/-- What can be done in a session. A request without a length asks for the
default one. -/
inductive Step
  | tryGenerate (g : Nat) (length : Option Value)
  | generate (g : Nat) (length : Option Value)
  | nextCounts (g : Nat) (times : Nat)
  | setCounter (g : Nat) (value : Int)
  | fingerprint (g : Nat)
  | changePlatform (g : Nat) (change : PlatformChange)
  | setClock (g : Nat) (reading : Nat → Int)
  | setPrimitive (g : Nat) (primitive : HashPrimitive)
  | nextCountsInThreads (g threads calls : Nat)
  | generateInThreads (g threads calls : Nat) (length : Option Value)

/-- What a step gives. -/
inductive StepResult
  | nothing
  | outcome (outcome : Outcome)
  | identifier (identifier : Text)
  | identifiers (identifiers : List Text)
  | integers (integers : List Int)
  | bytes (bytes : Bytes)

/-- The length that a request asks for. -/
def requestedLength (length : Option Value) : Value := length.getD (.int defaultLength)

namespace World

/-- Performs the calls of several threads, one thread after another. A thread
stops at its first failure; the first failure of all is the answer. -/
def inThreads {α : Type} (calls : Nat) (act : Act World α) : Nat → Act World (List α)
  | 0 => pure []
  | threads + 1 => do
    let first ← (Act.times calls act).attempt
    let others ← (inThreads calls act threads).attempt
    match first, others with
    | .ok results, .ok more => pure (results ++ more)
    | .error fault, _ => Act.fail fault
    | _, .error fault => Act.fail fault

/-- Does a step. -/
def perform : Step → Act World StepResult
  | .tryGenerate g length => .outcome <$> tryGenerate g (requestedLength length)
  | .generate g length => .identifier <$> generate g (requestedLength length)
  | .nextCounts g times => do
    let w ← Act.state
    .integers <$> Act.times times (nextCount (w.generator g).state)
  | .setCounter g value => do
    Act.change fun w =>
      let s := (w.generator g).state
      w.setState s { w.state s with counter := ⟨some value⟩ }
    pure .nothing
  | .fingerprint g => do
    let w ← Act.state
    .bytes <$> fingerprint (w.generator g).state
  | .changePlatform g change => do
    Act.change fun w =>
      let i := (w.generator g).platform
      w.setPlatform i ((w.platform i).changed change)
    pure .nothing
  | .setClock g reading => do
    Act.change fun w => setClock g { w.clock g with reading, position := 0 } w
    pure .nothing
  | .setPrimitive _ primitive => do
    Act.change fun w => { w with primitive }
    pure .nothing
  | .nextCountsInThreads g threads calls => do
    let w ← Act.state
    let counts ← inThreads calls (nextCount (w.generator g).state) threads
    pure (.integers (counts.mergeSort fun a b => a ≤ b))
  | .generateInThreads g threads calls length => do
    let identifiers ← inThreads calls (generate g (requestedLength length)) threads
    pure (.identifiers (identifiers.mergeSort Text.le))

end World

/-- The generator that a step is about. The primitive is that of all of them,
and the step names the one to observe. -/
def Step.subject : Step → Nat
  | tryGenerate g _ | generate g _ | nextCounts g _ | setCounter g _ | fingerprint g
  | changePlatform g _ | setClock g _ | setPrimitive g _ | nextCountsInThreads g _ _
  | generateInThreads g _ _ _ => g

/-- What is seen after a step. -/
structure Observation where
  result : Except Fault StepResult
  entries : List Entry
  draws : Draws
  clockCalls : Nat
  /-- The value that the counter will hand out next. -/
  counter : Option Int
  counterSeeded : Bool
  fingerprintSet : Bool

/-- Does a step and observes. -/
def World.observe (step : Step) (w : World) : Observation × World :=
  let r := World.perform step w
  let after := r.state
  let generator := after.generator step.subject
  let state := after.state generator.state
  (⟨r.answer, r.entries, (after.platform generator.platform).draws, (after.clock step.subject).calls,
    state.counter.stored, state.counter.isSeeded, state.fingerprint.isSome⟩, after)

/-- Does the steps of a session one after another: what is seen after each, and
the world at the end. -/
def World.session : List Step → World → List Observation × World
  | [], w => ([], w)
  | step :: rest, w =>
    let (observation, w) := w.observe step
    let (observations, w) := w.session rest
    (observation :: observations, w)

end IdMint
