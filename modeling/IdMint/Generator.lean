import IdMint.World

/-!
# Generating identifiers

`tryGenerate` asks a generator for an identifier and reports the failures that
callers are promised as outcomes; `generate` reports them as faults. A length
that is not acceptable is rejected before anything is drawn or read. For an
acceptable one the clock, the counter, the fingerprint and the random bytes are
taken in this order, and they stay taken if the hashing fails.
-/

namespace IdMint.World

/-- What a rejected length comes to. -/
def reject (length : Value) (rejection : Length.Rejection) : Act World Outcome := do
  let message ← Act.ofExcept rejection.message
  let shown ← Act.ofExcept length.literal
  Act.note .debug "length_rejected" [("length", .text shown)]
  pure (Outcome.failure .invalidArgument message)

/-- What an attempt at making an identifier comes to. -/
def conclude : Except Fault Text → Act World Outcome
  | .ok identifier => pure (Outcome.success identifier)
  | .error (.cryptoFailure message) => do
    Act.note .error "crypto_failure" [("error", .text message)]
    pure (Outcome.failure .cryptoFailure message)
  | .error fault => Act.fail fault

/-- Gathers what goes into an identifier. -/
def gather (g : Nat) (length : Length) : Act World Draft := do
  let timestamp ← readClock g
  let generator := (← Act.state).generator g
  let counter ← nextCount generator.state
  let fingerprint ← fingerprint generator.state
  let random ← onPlatform generator.platform (Platform.randomBytes length.val)
  let first ← onPlatform generator.platform (Platform.randomBytes 1)
  pure ⟨timestamp, counter, fingerprint, random, first.toNatBig⟩

/-- Makes an identifier of an acceptable length. -/
def generateAccepted (g : Nat) (length : Length) : Act World Outcome := do
  let draft ← gather g length
  let primitive := (← Act.state).primitive
  conclude (draft.make primitive length)

/-- Asks a generator for an identifier; failures that callers are promised are
outcomes. -/
def tryGenerate (g : Nat) (length : Value) : Act World Outcome :=
  match Length.ofValue length with
  | .error rejection => reject length rejection
  | .ok n => generateAccepted g n

/-- Asks a generator for an identifier; every failure is a fault. -/
def generate (g : Nat) (length : Value) : Act World Text := do
  let outcome ← tryGenerate g length
  Act.ofExcept outcome.unwrap

end IdMint.World
