import IdMint.Journal.Printer
import IdMint.Program
import IdMint.Yaml.Document
import Std.Time.DateTime.Timestamp

/-!
# The program on a machine

What surrounds the program is read once, when it starts: the arguments, the
environment, the host name, the process id, the clocks, as many random bytes as
can be needed, the users on record, and the files that may hold settings. The rest
is a single run, with YAML for the language of documents and a printer for the
sink.
-/

namespace IdMint.Machine

/-- Bytes that come from the system, as a text. If they are no UTF-8, each of
those outside ASCII is escaped, and stands for itself when the text is encoded. -/
def textOfBytes (bytes : ByteArray) : Text :=
  match String.fromUTF8? bytes with
  | some s => Text.ofString s
  | none => bytes.toList.map fun b =>
    Fin.ofNat 0x110000 (if b < 0x80 then b.toNat else 0xDC00 + b.toNat)

/-- The text as the system takes it. -/
def bytesOfText (t : Text) : ByteArray :=
  match Utf8.encode t with
  | .ok bytes => ⟨bytes.toArray⟩
  | .error _ => (String.ofList (t.map fun c => c.toChar?.getD '\ufffd')).toUTF8

/-- The variables of the environment. -/
def readEnvironment : IO (List (Text × Text)) := do
  let bytes ← IO.FS.readBinFile "/proc/self/environ"
  let settings := Text.splitOn '\x00' (textOfBytes bytes)
  return settings.filterMap (Text.cutAt? '=')

/-- The host name, or the reason why it cannot be found out. -/
def readHostName : IO (Except Fault Text) := do
  match ← (IO.FS.readBinFile "/proc/sys/kernel/hostname").toBaseIO with
  | .ok bytes => return .ok (Text.trim (textOfBytes bytes))
  | .error e => return .error (.outside .system (toString e))

/-- The number of this process. -/
def readProcessId : IO Int := do
  let status ← IO.FS.readFile "/proc/self/stat"
  return ((String.ofList (status.toList.takeWhile Char.isDigit)).toInt?).getD 0

/-- What a file holds, if there is one at a path. -/
def readSettingsFile (path : Text) : IO (Option Contents) := do
  let name := String.ofList (path.map fun c => c.toChar?.getD '\ufffd')
  match ← (IO.FS.readBinFile name).toBaseIO with
  | .ok bytes => return some (.ok bytes.toList)
  | .error (.permissionDenied file code details) =>
    return some (.error (toString (IO.Error.permissionDenied file code details)))
  | .error _ => return none

/-- A user on record. -/
structure User where
  name : Text
  number : Text
  home : Text

/-- The users on record. -/
def readUsers : IO (List User) := do
  match ← (IO.FS.readBinFile "/etc/passwd").toBaseIO with
  | .ok bytes =>
    return (Text.splitOn '\n' (textOfBytes bytes)).filterMap fun line =>
      match Text.splitOn ':' line with
      | [name, _, number, _, _, home, _] => some { name, number, home }
      | _ => none
  | .error _ => return []

/-- The number of the user of this process. -/
def readUserNumber : IO Text := do
  let status ← IO.FS.readFile "/proc/self/status"
  let line := (Text.splitOn '\n' (Text.ofString status)).find? fun line =>
    (Text.ofString "Uid:").isPrefixOf line
  return match line.map (Text.splitOn '\t') with
    | some (_ :: number :: _) => number
    | _ => []

/-- What settings are loaded from. Only the files that a search can come upon
are read. -/
def readSurroundings (environment : List (Text × Text)) (requested : Option Text) :
    IO Surroundings := do
  let users ← readUsers
  let number ← readUserNumber
  let bare : Surroundings := {
    file? := fun _ => none
    environment
    ownHome := (users.find? (·.number = number)).map (·.home)
    homes := fun name => (users.find? (·.name = name)).map (·.home) }
  let paths := (Settings.searchPaths bare requested).filterMap fun path =>
    (bare.expand path).toOption
  let files ← paths.filterMapM fun path => do
    return (← readSettingsFile path).map fun contents => (path, contents)
  return { bare with file? := fun path => (files.find? (·.1 = path)).map (·.2) }

/-- How many random bytes a run can need. -/
def randomBytesFor (count : Nat) : Nat := 16 + count * (maxLength + 1)

/-- The machine that the program runs on. -/
def readPlatform (environment : List (Text × Text)) (count : Nat) : IO Platform := do
  let random ← IO.getRandomBytes (USize.ofNat (randomBytesFor count))
  return {
    integerSource := .stream
    hostName := ← readHostName
    processId := ← readProcessId
    environment
    stream := fun n => random.data.getD n 0 }

/-- The program before its only run. -/
def start (environment : List (Text × Text)) (count : Nat) : IO (Program Printer) := do
  let nanoseconds := (← Std.Time.Timestamp.now).toNanosecondsSinceUnixEpoch.val
  let watch := Float.ofNat (← IO.monoNanosNow) / 1e9
  let time := Float.ofInt nanoseconds / 1e9
  let platform ← readPlatform environment count
  return {
    service := Service.start platform (fun _ => nanoseconds) .sha3 { reading := fun _ => watch }
    journal := Printer.start fun _ => time }

end IdMint.Machine

open IdMint

/-- Runs the program once. -/
def main (arguments : List String) : IO UInt32 := do
  let arguments := arguments.map Text.ofString
  let request := match CommandLine.read arguments with
    | .request request => request
    | _ => {}
  let environment ← Machine.readEnvironment
  let surroundings ← Machine.readSurroundings environment request.config
  let count := (Program.countFor request).toOption.getD 0
  let (report, _) := Program.run Yaml.reader Printer.sink surroundings arguments
    (← Machine.start environment count)
  (← IO.getStdout).write (Machine.bytesOfText report.output)
  (← IO.getStderr).write (Machine.bytesOfText report.errors)
  match report.ending with
  | .completed code | .stopped code => return UInt32.ofNat code
  | .failed fault =>
    (← IO.getStderr).write (Machine.bytesOfText (fault.message ++ ("\n" : Text)))
    return 1
