import IdMint.Value.Basic

/-!
# Journal entries

What operations note down while they work: an event at a severity, with named
fields in the order in which they were given. How an entry is written, and
whether it is at all, is not settled here.
-/

namespace IdMint

/-- How serious an event is. -/
inductive Severity
  | debug
  | info
  | warning
  | error
  | critical
deriving DecidableEq, Repr

namespace Severity

/-- The name of a severity. -/
def name : Severity → Text
  | debug => "debug"
  | info => "info"
  | warning => "warning"
  | error => "error"
  | critical => "critical"

/-- The weight of a severity, by which entries are held back. -/
def weight : Severity → Nat
  | debug => 10
  | info => 20
  | warning => 30
  | error => 40
  | critical => 50

end Severity

/-- An event with its fields. -/
structure Entry where
  severity : Severity
  event : Text
  fields : List (Text × Value)

end IdMint
