import IdMint.Identifier
import IdMint.Journal.Entry
import IdMint.Text.Upper

/-!
# Settings

What a configuration settles: the length of identifiers for which none is asked,
from which severity on journal entries are written, and how. This module reads
settings out of a document that has been parsed already. A value that is not
acceptable ends the program with a report that names its place.
-/

namespace IdMint

/-- The settings in force. -/
structure Settings where
  version : Value
  /-- The length of identifiers for which none is asked. -/
  length : Length
  /-- The least severity that is written. -/
  level : Severity
  /-- Entries are written as JSON. -/
  json : Bool
  /-- The file that the settings were read from. -/
  path : Option Text

namespace Settings

/-- The versions of configuration files that are understood. -/
def supportedVersions : List Int := [1]

/-- The name of a severity as a configuration gives it. -/
def title : Severity → Text
  | .debug => "DEBUG"
  | .info => "INFO"
  | .warning => "WARNING"
  | .error => "ERROR"
  | .critical => "CRITICAL"

/-- The severities, in the alphabetical order of their names. -/
def levels : List Severity := [.critical, .debug, .error, .info, .warning]

/-- Why there are no settings. -/
inductive Problem
  /-- The value at a place is no integer. -/
  | notAnInteger (place shown : Text)
  /-- The integer at a place is no acceptable length. -/
  | lengthOutOfRange (place shown : Text)
  /-- The text at a place names no severity. -/
  | unknownLevel (place shown : Text)
  /-- A file is no document. -/
  | unparsable (path : Text)
  /-- A file cannot be read. -/
  | unreadable (path reason : Text)
  /-- A file does not give its version. -/
  | versionMissing (path : Text)
  /-- A file holds something other than a mapping. -/
  | notAMapping (path : Text)
  /-- A file has a version that is not understood. -/
  | unsupportedVersion (shown : Text)
  /-- The environment gives a length that is no integer. -/
  | lengthVariable (value : Text)
deriving DecidableEq, Repr

/-- The literal form of a list of texts. -/
def listing (ts : List Text) : Text := Value.bracketed "[" "]" ts

/-- The report on a problem, without its introduction. -/
def Problem.detail : Problem → Text
  | notAnInteger place shown => Text.concat [place, " must be an integer, got ", shown]
  | lengthOutOfRange place shown =>
    Text.concat [place, " must be between ", Text.ofNat minLength, " and ", Text.ofNat maxLength,
      ", got ", shown]
  | unknownLevel place shown =>
    Text.concat ["Invalid ", place, ": '", shown, "'. Supported values: ",
      listing (levels.map fun level => (title level).quoted), "."]
  | unparsable path =>
    Text.concat ["Failed to parse ", path, ": <yaml>\nCheck the YAML syntax and try again."]
  | unreadable path reason => Text.concat ["Could not read ", path, ": ", reason]
  | versionMissing path =>
    Text.concat [path, " is missing the required 'version' field.\n",
      "Add 'version: 1' to the top of your config file."]
  | notAMapping path =>
    Text.concat [path, " is not a valid YAML mapping.\n",
      "The config file must be a YAML dictionary at the top level."]
  | unsupportedVersion shown =>
    Text.concat ["Unsupported config version: ", shown, ". Supported versions: ",
      listing (supportedVersions.map Text.ofInt), "."]
  | lengthVariable value =>
    Text.concat ["CUID2_LENGTH environment variable is not a valid integer: '", value, "'"]

/-- The report on a problem. -/
def Problem.report (problem : Problem) : Text := Text.concat ["CONFIG ERROR: ", problem.detail, "\n"]

/-- A problem ends the program with exit code one. -/
def Problem.fault (problem : Problem) : Fault := .stop 1 problem.report

/-- The length that an integer is. -/
def lengthOfInt (place : Text) (n : Int) : Except Fault Length :=
  match Length.ofInt n with
  | .ok length => .ok length
  | .error _ => do
    let shown ← Value.integer n
    throw (Problem.lengthOutOfRange place shown).fault

/-- The length that a value is. Only integers are lengths here, and truth values
are none. -/
def lengthOf (place : Text) : Value → Except Fault Length
  | .int n => lengthOfInt place n
  | other => do
    let shown ← other.literal
    throw (Problem.notAnInteger place shown).fault

/-- The severity that a value names, in letters of either case. -/
def levelOf (place : Text) (v : Value) : Except Fault Severity := do
  let shown ← v.display
  match levels.find? fun level => title level == shown.upper with
  | some level => return level
  | none => throw (Problem.unknownLevel place shown).fault

/-- The length of identifiers for which none is asked, unless settled otherwise. -/
def standardLength : Length := { val := defaultLength }

/-- The settings where nothing is settled. -/
def standard : Settings where
  version := .int 1
  length := standardLength
  level := .warning
  json := false
  path := none

/-- The part of a document under a name. Where it is missing or counts as false
it is empty. -/
def part (document : Value) (name : Text) : Except Fault Value := do
  let found ← document.get? name
  return (found.getD .null).orEmpty

/-- The settings that a document gives. -/
def ofDocument (document : Value) (path : Option Text) : Except Fault Settings := do
  let source := match path with
    | some p => if p.isEmpty then ("config" : Text) else p
    | none => "config"
  let generator ← part document "generator"
  let length ← match ← generator.get? "default_length" with
    | some v => lengthOf (Text.concat [source, ": generator.default_length"]) v
    | none => pure standard.length
  let logging ← part document "logging"
  let level ← match ← logging.get? "level" with
    | some v => levelOf (Text.concat [source, ": logging.level"]) v
    | none => pure standard.level
  let json ← logging.get? "json"
  let version ← document.get? "version"
  return {
    version := version.getD standard.version
    length
    level
    json := (json.map Value.isTrue).getD standard.json
    path }

end Settings

end IdMint
