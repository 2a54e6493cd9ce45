import IdMint.CommandLine
import IdMint.Journal.Sink
import IdMint.Service
import IdMint.Settings.Load

/-!
# The program

A run of the program reads its arguments, loads the settings, and prints as many
identifiers as are asked for, or a message and none of them. Runs that follow
one another share the generator and the sink of journal entries: what a run has
taken from the generator stays taken, and the sink stays as the last settings
have set it.

The program is given a reader of documents, for the files that hold settings, and
a sink, which are not its own.
-/

namespace IdMint

/-- What the runs of the program share, over a sink with states `σ`. -/
structure Program (σ : Type) where
  service : Service
  /-- The state of the sink. -/
  journal : σ

/-- How a run ends. -/
inductive Ending
  /-- With an exit code, after identifiers have been asked for. -/
  | completed (code : Nat)
  /-- With an exit code, before any identifier has been asked for. -/
  | stopped (code : Nat)
  | failed (fault : Fault)

/-- What is seen of a run: how it ends, and what it prints. -/
structure Report where
  ending : Ending
  output : Text := []
  errors : Text := []

namespace Program

/-- Makes identifiers, all of the same length. -/
def mint (length : Value) (count : Nat) : Act Service (List Text) :=
  Act.times count (Service.generate length)

/-- The length that is asked for, or else the one of the settings. What an
option has been given without a value is no integer. -/
def lengthFor (request : CommandLine.Request) (settings : Settings) : Value :=
  match request.length with
  | none => .int settings.length.val
  | some (.value n) => .int n
  | some .nothing => .list []

/-- How many identifiers are asked for. -/
def countFor (request : CommandLine.Request) : Except Fault Nat :=
  match request.count with
  | .value n => .ok n
  | .nothing => .error (.noInteger (Value.list []).typeName)

/-- Makes the identifiers of a request, or tells in a message why they cannot be
made. -/
def serve (request : CommandLine.Request) (settings : Settings) :
    Act Service (Except Text (List Text)) := do
  let count ← Act.ofExcept (countFor request)
  match ← (mint (lengthFor request settings) count).attempt with
  | .ok identifiers => pure (.ok identifiers)
  | .error fault =>
    if fault.isIdentifierFailure then do
      Act.note .debug "generation_failed" [("error", .text fault.message)]
      pure (.error fault.message)
    else Act.fail fault

/-- Performs an action on the service and writes what it notes down: the answer,
and what has been written. An entry that cannot be written is a fault. -/
def perform {σ α : Type} (sink : Sink σ) (act : Act Service α) (p : Program σ) :
    Except Fault α × Text × Program σ :=
  let r := act p.service
  let (written, lines, journal) := sink.writeAll r.entries p.journal
  (written >>= fun _ => r.answer, lines, ⟨r.state, journal⟩)

/-- What is seen where loading the settings has failed. -/
def reportFault (written : Text) : Fault → Report
  | .stop code report => { ending := .stopped code, errors := written ++ report }
  | fault => { ending := .failed fault, errors := written }

/-- What is seen of a request that has been served. -/
def reportService (written : Text) : Except Fault (Except Text (List Text)) → Report
  | .error fault => { ending := .failed fault, errors := written }
  | .ok (.error message) =>
    { ending := .completed 1, errors := Text.concat [written, "Error: ", message, "\n"] }
  | .ok (.ok identifiers) =>
    { ending := .completed 0, output := Text.join "\n" identifiers ++ ("\n" : Text), errors := written }

variable {σ : Type} (reader : DocumentReader) (sink : Sink σ)

/-- Does what is asked for, under settings that are loaded first. -/
def fulfil (surroundings : Surroundings) (request : CommandLine.Request) (p : Program σ) :
    Report × Program σ :=
  let (loaded, loading, p) := p.perform sink (Settings.load reader surroundings request.config)
  match loaded with
  | .error fault => (reportFault loading fault, p)
  | .ok settings =>
    let (configured, journal) :=
      sink.configureBy (Settings.title settings.level) settings.json p.journal
    match configured with
    | .error fault => (reportFault loading fault, { p with journal })
    | .ok () =>
      let (answer, serving, p) := { p with journal }.perform sink (serve request settings)
      (reportService (loading ++ serving) answer, p)

/-- A run of the program. -/
def run (surroundings : Surroundings) (arguments : List Text) (p : Program σ) :
    Report × Program σ :=
  match CommandLine.read arguments with
  | .help => ({ ending := .stopped 0, output := CommandLine.helpText }, p)
  | .misuse misuse => ({ ending := .stopped 2, errors := misuse.report }, p)
  | .request request => p.fulfil reader sink surroundings request

end Program

end IdMint
