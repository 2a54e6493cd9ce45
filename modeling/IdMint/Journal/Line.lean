import IdMint.Journal.Entry
import IdMint.Value.Json

/-!
# Entries as lines

A written entry has, besides its own fields, the event, the time at which it is
written and the name of its severity. There are two forms. The JSON line gives
the fields in the order in which they came, and then those three. The console
line gives the time, the severity and the event first, in columns, then the
names of loggers, and then the other fields in the order of their names. Traces
of calls and reports on exceptions that an entry brings along follow the console
line on lines of their own.
-/

namespace IdMint.Entry

/-- Sets a field: in place of the one with that name, or at the end. -/
def setField (name : Text) (v : Value) : List (Text × Value) → List (Text × Value)
  | [] => [(name, v)]
  | (n, w) :: rest => if n = name then (n, v) :: rest else (n, w) :: setField name v rest

/-- The fields that ask for a trace of the calls; they are not written
themselves. -/
def asksForTrace (name : Text) : Bool :=
  name = Text.ofString "exc_info" || name = Text.ofString "stack_info"

/-- The fields of an entry that are written. -/
def ownFields (entry : Entry) : List (Text × Value) :=
  entry.fields.filter fun (name, _) => !asksForTrace name

/-- All that is written of an entry, at a time. -/
def allFields (entry : Entry) (time : Float) : List (Text × Value) :=
  setField "level" (.text entry.severity.name)
    (setField "timestamp" (.float time) (setField "event" (.text entry.event) entry.ownFields))

/-- The JSON line. -/
def jsonLine (entry : Entry) (time : Float) : Except Fault Text :=
  (Value.dict ((entry.allFields time).map fun (name, v) => (.text name, v))).json

/-- The code points for which a text is quoted on the console. -/
def needsQuotes (c : CodePoint) : Bool :=
  c.is ' ' || c.is '\t' || c.is '=' || c.is '\r' || c.is '\n' || c.is '"' || c.is '\x27'

/-- A value on the console. -/
def consoleValue : Value → Except Fault Text
  | .text t => .ok (if t.any needsQuotes then t.quoted else t)
  | v => v.literal

/-- The width of the column of severities and of that of events. -/
def severityWidth : Nat := 9

@[inherit_doc severityWidth]
def eventWidth : Nat := 30

/-- The fields that have columns of their own. -/
def columnNames : List Text := ["event", "timestamp", "level"]

/-- The fields that name loggers, in the order of their columns. -/
def loggerNames : List Text := ["logger", "logger_name"]

/-- The fields that follow the line on lines of their own. -/
def appendixNames : List Text := ["stack", "exception"]

/-- A field on the console. -/
def consoleField (field : Text × Value) : Except Fault Text :=
  (consoleValue field.2).map fun shown => Text.concat [field.1, "=", shown]

/-- The value of a field. -/
def field? (entry : Entry) (name : Text) : Option Value :=
  (entry.ownFields.find? (·.1 = name)).map (·.2)

/-- The names of loggers on the console. -/
def loggerColumns (entry : Entry) : Except Fault (List Text) :=
  (loggerNames.filterMap entry.field?).mapM fun v => v.display.map (Value.bracketed "[" "]" [·])

/-- The fields without a place of their own on the console, in the order of
their names. -/
def consoleFields (entry : Entry) : Except Fault (List Text) :=
  let named := entry.ownFields.filter fun (name, _) =>
    !(columnNames ++ loggerNames ++ appendixNames).contains name
  (named.mergeSort fun a b => Text.le a.1 b.1).mapM consoleField

/-- What follows the console line: nothing for a missing value, and else a text
on a new line. -/
def appendix : Option Value → Except Fault Text
  | none | some .null => .ok []
  | some (.text t) => .ok (("\n" : Text) ++ t)
  | some v => .error (.noText v.typeName)

/-- The rule between a trace of calls and a report on an exception. -/
def appendixRule : Text := ("\n\n" : Text) ++ List.replicate 79 (CodePoint.ofChar '=') ++ ("\n" : Text)

/-- The trace of calls and the report on an exception that an entry brings
along. -/
def appendices (entry : Entry) : Except Fault Text := do
  let trace ← appendix (entry.field? "stack")
  let report ← appendix (entry.field? "exception")
  return trace ++ (if trace.isEmpty || report.isEmpty then [] else appendixRule) ++ report

/-- The console line. -/
def consoleLine (entry : Entry) (time : Float) : Except Fault Text := do
  let columns : List Text := [
    Value.floatLayout.float time,
    Text.concat ["[", Text.padRight severityWidth entry.severity.name, "]"],
    Text.padRight eventWidth entry.event]
  let fields := (← entry.loggerColumns) ++ (← entry.consoleFields)
  return Text.dropTrailingSpaces (Text.join " " (columns ++ fields)) ++ (← entry.appendices)

end IdMint.Entry
