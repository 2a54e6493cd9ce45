import IdMint.Journal.Line
import IdMint.Journal.Sink
import IdMint.Text.Lower

/-!
# A printer of entries

The sink that the program has on a machine: entries from a threshold on are
written, one line each, in one of the two forms, with the times of a clock. The
clock is read for the entries that are written and for no others.
-/

namespace IdMint

/-- What a printer goes by. -/
structure Printer where
  /-- The least weight of an entry that is written. -/
  threshold : Nat
  json : Bool
  /-- The times, in seconds, at which lines are written. -/
  time : Nat → Float
  /-- How many lines have been written. -/
  written : Nat := 0

namespace Printer

/-- A printer as it is before anything is configured: warnings and worse, on the
console. -/
def start (time : Nat → Float) : Printer :=
  { threshold := Severity.warning.weight, json := false, time }

/-- The names by which a printer knows thresholds. -/
def thresholds : List (Text × Nat) := [
  ("critical", Severity.critical.weight),
  ("error", Severity.error.weight),
  ("warning", Severity.warning.weight),
  ("info", Severity.info.weight),
  ("debug", Severity.debug.weight),
  ("notset", 0)]

/-- The weight from which entries pass. A printer knows the weights of the
severities and zero. -/
def thresholdOf : Value → Except Fault Nat
  | .text t =>
    match thresholds.lookup t.lower with
    | some weight => .ok weight
    | none => .error (.noSeverity t.lower)
  | v =>
    if !v.isHashable then .error (.unhashable v.typeName)
    else match thresholds.find? fun entry => v.sameKey (.int entry.2) with
      | some (_, weight) => .ok weight
      | none => v.literal >>= fun shown => .error (.noSeverity shown)

/-- The printer with another threshold and form, if it knows the threshold. -/
def configure (threshold : Value) (json : Bool) (p : Printer) : Except Fault Unit × Printer :=
  match thresholdOf threshold with
  | .ok threshold => (.ok (), { p with threshold, json })
  | .error fault => (.error fault, p)

/-- The line of an entry. -/
def line (p : Printer) (entry : Entry) : Except Fault Text :=
  let time := p.time p.written
  (if p.json then entry.jsonLine time else entry.consoleLine time).map (· ++ ("\n" : Text))

/-- What takes the entries that are not serious enough, and two steps on the way
of the others. -/
def idler : Text := "_nop"

@[inherit_doc idler]
def method : Text := "_make_filtering_bound_logger.<locals>.make_method.<locals>.meth"

@[inherit_doc idler]
def dispatcher : Text := "BoundLoggerBase._proxy_to_logger"

/-- A fault, if one of the fields has a name that a writer keeps for itself. -/
def checkFields (writer : Text) (names : List Text) (entry : Entry) : Except Fault Unit :=
  match entry.fields.find? fun (name, _) => names.contains name with
  | some (name, _) => .error (.fieldTaken writer name)
  | none => .ok ()

/-- Whether an entry is serious enough. The names of its fields are looked at in
any case. -/
def accepts (p : Printer) (entry : Entry) : Except Fault Bool :=
  if entry.severity.weight < p.threshold then do
    checkFields idler ["event", "self"] entry
    return false
  else do
    checkFields method ["event", "self"] entry
    checkFields dispatcher ["method_name"] entry
    return true

/-- Writes an entry, if it is serious enough: what is written, and the printer
afterwards. -/
def write (entry : Entry) (p : Printer) : Except Fault Text × Printer :=
  match p.accepts entry with
  | .error fault => (.error fault, p)
  | .ok false => (.ok [], p)
  | .ok true => (p.line entry, { p with written := p.written + 1 })

/-- Printers as a sink. -/
def sink : Sink Printer := { configure, write }

end Printer

end IdMint
