import IdMint.Journal.Entry
import IdMint.Act

/-!
# Timing operations

An operation that is done once, such as the set-up of a fingerprint, is timed:
how long it took goes into the journal, as a warning if that was too long, and
as an error together with the reason if it failed. Timing changes neither the
answer nor the fault of the operation.
-/

namespace IdMint

/-- A watch that shows seconds: what it will show, and how often it has been
read. -/
structure Stopwatch where
  reading : Nat → Float
  position : Nat := 0

namespace Stopwatch

/-- Reads the watch. -/
def read : Act Stopwatch Float := fun w =>
  ⟨.ok (w.reading w.position), { w with position := w.position + 1 }, []⟩

/-- How many milliseconds an operation may take without a warning, unless stated
otherwise. -/
def defaultPatience : Float := 50.0

variable {σ α : Type}

/-- Performs an operation between two readings of a watch and notes down how
long it took. -/
def timed (read : Act σ Float) (operation : Text) (patience : Float) (act : Act σ α) : Act σ α := do
  let start ← read
  let answer ← act.attempt
  let stop ← read
  let milliseconds := (stop - start) * 1000.0
  let fields : List (Text × Value) :=
    [("operation", .text operation), ("duration_ms", .float milliseconds)]
  match answer with
  | .error fault =>
    Act.note .error (operation ++ (" failed" : Text))
      (fields ++ [(("error" : Text), Value.text fault.message)])
    Act.fail fault
  | .ok a =>
    Act.note (if milliseconds > patience then .warning else .debug)
      (operation ++ (" completed" : Text)) fields
    pure a

end Stopwatch

end IdMint
