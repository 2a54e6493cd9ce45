import IdMint.Act
import IdMint.Document
import IdMint.Settings.Basic
import IdMint.Surroundings

/-!
# Finding and loading settings

Settings are looked for in four places, and the first file that is there counts,
whatever is wrong with it: the one that the caller names, the one that the
environment names, one below the working directory and one below the home
directory. Two variables of the environment override what the file says, and
also what holds where there is no file.

The search goes from path to path, and a path that cannot be expanded ends it as a
fault, before any file behind it is looked for.
-/

namespace IdMint

namespace Settings

/-! ## The search -/

/-- The variable that names a file. -/
def pathVariable : Text := "CUID2_CONFIG"

/-- The variable that gives the length of identifiers for which none is asked. -/
def lengthVariable : Text := "CUID2_LENGTH"

/-- The variable that gives the least severity that is written. -/
def levelVariable : Text := "CUID2_LOG_LEVEL"

/-- The path of settings below a directory. -/
def usualPath : Text := ".cuid2/config.yaml"

/-- A path that may be missing or empty; then it does not count. -/
def optionalPath : Option Text → List Text
  | some path => if path.isEmpty then [] else [path]
  | none => []

/-- The paths at which settings may be, in the order of the search. The last of
them is expanded already. -/
def searchPaths (s : Surroundings) (requested : Option Text) : List Text :=
  optionalPath requested ++ optionalPath (s.readVariable? pathVariable) ++
    [usualPath, s.ownPath (("/" : Text) ++ usualPath)]

/-- The first file on the way along some paths, with its path. -/
def firstFile? (s : Surroundings) : List Text → Except Fault (Option (Text × Contents))
  | [] => .ok none
  | path :: rest => do
    let expanded ← s.expand path
    match s.file? expanded with
    | some contents => return some (expanded, contents)
    | none => firstFile? s rest

/-! ## From a file to settings -/

/-- The document in a file. -/
def document (reader : DocumentReader) (path : Text) : Contents → Except Fault Value
  | .error reason => .error (Problem.unreadable path reason).fault
  | .ok bytes =>
    match reader (.opened bytes) with
    | .ok document => .ok document
    | .error .malformed => .error (Problem.unparsable path).fault
    | .error (.fault fault) => .error fault

/-- A value of a kind that can be no member of a set cannot be looked up in one
either. Sets are the exception: the question whether a set is a member has an
answer. -/
def isSearchable : Value → Bool
  | .set _ => true
  | v => v.isHashable

/-- A version that a file gives must be one of those that are understood. -/
def checkVersion (version : Value) : Except Fault Unit :=
  if !isSearchable version then .error (.unhashable version.typeName)
  else if supportedVersions.any fun n => version.sameKey (.int n) then .ok ()
  else do
    let shown ← version.display
    throw (Problem.unsupportedVersion shown).fault

/-- The settings that the document in a file gives. -/
def ofFile (path : Text) (document : Value) : Except Fault Settings :=
  match document with
  | .dict entries =>
    match (Value.lookUp? "version" entries).getD .null with
    | .null => .error (Problem.versionMissing path).fault
    | version => do
      checkVersion version
      ofDocument document (some path)
  | .null => .error (Problem.versionMissing path).fault
  | _ => .error (Problem.notAMapping path).fault

/-- The length that a variable of the environment gives. -/
def lengthOfVariable (value : Text) : Except Fault Length :=
  match Decimal.readInt 10 value with
  | .ok n => lengthOfInt lengthVariable n
  | .error _ => .error (Problem.lengthVariable value).fault

/-- The settings with what the environment overrides. -/
def override (s : Surroundings) (settings : Settings) : Except Fault Settings := do
  let length ← match s.readVariable? lengthVariable with
    | some value => lengthOfVariable value
    | none => pure settings.length
  let level ← match s.readVariable? levelVariable with
    | some value => levelOf levelVariable (.text value)
    | none => pure settings.level
  return { settings with length, level }

/-- The settings in a file that has been found, under the environment. -/
def resolve (reader : DocumentReader) (s : Surroundings) (path : Text) (contents : Contents) :
    Except Fault Settings := do
  let settings ← ofFile path (← document reader path contents)
  override s settings

/-- Loads the settings, from a path of the caller's choice if there is a file at
it. -/
def load {σ : Type} (reader : DocumentReader) (s : Surroundings) (requested : Option Text) :
    Act σ Settings := do
  let paths := searchPaths s requested
  match ← Act.ofExcept (firstFile? s paths) with
  | none => do
    Act.note .debug "No config file found, using defaults"
      [("searched", .list (paths.map Value.text))]
    Act.ofExcept (override s standard)
  | some (path, contents) => do
    Act.note .debug "Loading config" [("path", .text path)]
    let settings ← Act.ofExcept (resolve reader s path contents)
    Act.note .debug "Config loaded"
      [("path", .text path), ("version", settings.version),
        ("default_length", .int settings.length.val)]
    pure settings

end Settings

end IdMint
