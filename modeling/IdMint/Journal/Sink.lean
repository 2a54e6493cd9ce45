import IdMint.Journal.Entry
import IdMint.Text.Upper

/-!
# Where entries are written

A sink takes journal entries and writes those that are serious enough. How it
looks is not settled here: it is what whoever runs the program has, and it is told
from which threshold on entries are to be written, and in which of two forms.

The threshold is given by a name. What a name stands for is looked up in a table
that has more names than there are severities, and a sink is told of what it
finds there, be it a weight or not.
-/

namespace IdMint

/-- A way to write journal entries, for a sink that is in one of the states `σ`. -/
structure Sink (σ : Type) where
  /-- Settles the threshold and whether entries are written as JSON. -/
  configure : Value → Bool → σ → Except Fault Unit × σ
  /-- What is written of an entry. -/
  write : Entry → σ → Except Fault Text × σ

namespace Sink

/-- The layout of lines that goes by a name of its own. -/
def basicLayout : Text := "%(levelname)s:%(name)s:%(message)s"

/-- A style of layouts, with the layout that is usual in it. -/
def style (mark kind layout : Text) : Value × Value :=
  (.text mark, .pair (.object "type" none (some (Text.concat ["<class 'logging.", kind, "'>"])))
    (.text layout))

/-- The names that thresholds go by, and what they stand for. Some weights have
two names, one name lets everything pass, and two names stand for no weight but
for the layout of lines and for the styles of layouts. -/
def names : List (Text × Value) := [
  ("CRITICAL", .int Severity.critical.weight),
  ("FATAL", .int Severity.critical.weight),
  ("ERROR", .int Severity.error.weight),
  ("WARNING", .int Severity.warning.weight),
  ("WARN", .int Severity.warning.weight),
  ("INFO", .int Severity.info.weight),
  ("DEBUG", .int Severity.debug.weight),
  ("NOTSET", .int 0),
  ("BASIC_FORMAT", .text basicLayout),
  ("_STYLES", .dict [
    style "%" "PercentStyle" basicLayout,
    style "\x7b" "StrFormatStyle" "\x7blevelname\x7d:\x7bname\x7d:\x7bmessage\x7d",
    style "$" "StringTemplateStyle" "$\x7blevelname\x7d:$\x7bname\x7d:$\x7bmessage\x7d"])]

/-- What a name stands for, in letters of either case. -/
def standsFor (name : Text) : Except Fault Value :=
  match names.lookup name.upper with
  | some v => .ok v
  | none => .error (.unknownSeverity name.upper)

variable {σ : Type}

/-- Settles the threshold by its name, and the form. An unknown name changes
nothing. -/
def configureBy (sink : Sink σ) (name : Text) (json : Bool) (s : σ) : Except Fault Unit × σ :=
  match standsFor name with
  | .ok threshold => sink.configure threshold json s
  | .error fault => (.error fault, s)

/-- Writes entries one after another, up to the first that cannot be written. -/
def writeAll (sink : Sink σ) : List Entry → σ → Except Fault Unit × Text × σ
  | [], s => (.ok (), [], s)
  | entry :: rest, s =>
    match sink.write entry s with
    | (.error fault, s) => (.error fault, [], s)
    | (.ok line, s) =>
      let (answer, lines, s) := sink.writeAll rest s
      (answer, line ++ lines, s)

end Sink

end IdMint
