import IdMint.Decimal.Integer
import IdMint.Text.Quoted

/-!
# The command line

The options of the program, and how arguments are read as options. A long option
may be cut short as long as it stays unambiguous, and its argument may be
attached with an equals sign; the argument of a short option may be attached
without one, and short options that take none may be put together. Negative
numbers are arguments, not options, and after `--` there are no options. Where
that mark is attached to an option, the option is given without a value.

Every argument is classified before any option takes effect, so an ambiguous
option is reported even if help has been asked for before it.
-/

namespace IdMint.CommandLine

/-- The options. -/
inductive Switch
  | help
  | length
  | count
  | config
deriving DecidableEq, Repr

/-- The spellings of the options, in the order in which they are listed. -/
def spellings : List (Text × Switch) := [
  ("-h", .help), ("--help", .help), ("-l", .length), ("--length", .length), ("-n", .count),
  ("--count", .count), ("--config", .config)]

/-- The option with a spelling. -/
def Switch.ofSpelling? (t : Text) : Option Switch := (spellings.find? (·.1 = t)).map (·.2)

/-- The spellings of an option, as messages name it. -/
def Switch.title (s : Switch) : Text :=
  Text.join "/" ((spellings.filter (·.2 = s)).map (·.1))

/-- All options but one have an argument. -/
def Switch.takesArgument (s : Switch) : Bool := s ≠ .help

/-- What is wrong with a command line. -/
inductive Misuse
  | ambiguous (argument : Text) (candidates : List Text)
  | argumentMissing (s : Switch)
  /-- An option that takes no argument has got one. -/
  | argumentIgnored (s : Switch) (argument : Text)
  | invalidInteger (s : Switch) (argument : Text)
  | invalidCount (argument : Text)
  | countTooSmall (n : Int)
  | unrecognized (arguments : List Text)
deriving DecidableEq, Repr

/-- What an option of a request has been given. -/
inductive Given (α : Type)
  | value (a : α)
  /-- Only the mark that ends the options, which is no value. -/
  | nothing
deriving DecidableEq

/-- What the program is asked to do. -/
structure Request where
  /-- The length of the identifiers. -/
  length : Option (Given Int) := none
  /-- How many identifiers are wanted. -/
  count : Given Nat := .value 1
  /-- The path of the settings. -/
  config : Option Text := none
deriving DecidableEq

/-- What a command line comes to. -/
inductive Reading
  | request (request : Request)
  | help
  | misuse (misuse : Misuse)
deriving DecidableEq

/-! ## Arguments -/

/-- What an argument is. -/
inductive Word
  /-- No option. -/
  | operand
  /-- An option of a kind that there is not. -/
  | unknown
  | option (s : Switch) (isLong : Bool) (attached : Option Text)

/-- Decimal digits of any script. -/
def areDigits (t : Text) : Bool := t.all fun c => (Text.digitValue? c).isSome

/-- A negative number: digits, possibly with a point among them, but not at the
end. A line break may follow. -/
def isNegativeNumber : Text → Bool
  | [] => false
  | sign :: rest =>
    let body := if (rest.getLast?.map (·.is '\n')).getD false then rest.dropLast else rest
    sign.is '-' && match Text.cutAt? '.' body with
      | none => !body.isEmpty && areDigits body
      | some (whole, fraction) => areDigits whole && !fraction.isEmpty && areDigits fraction

/-- An option that an argument begins with. Arguments with two dashes may be the
beginning of an option's spelling; of the others, the first two characters are a
spelling. -/
def candidates (argument : Text) : List (Text × Word) :=
  if Text.startsWith '-' (argument.drop 1) then
    let (stem, attached) : Text × Option Text := match Text.cutAt? '=' argument with
      | some (stem, rest) => (stem, some rest)
      | none => (argument, none)
    (spellings.filter fun (name, _) => stem.isPrefixOf name).map fun (name, s) =>
      (name, .option s true attached)
  else
    (spellings.filter (·.1 = argument.take 2)).map fun (name, s) =>
      (name, .option s false (some (argument.drop 2)))

/-- The option that is written before an equals sign. -/
def marked? (argument : Text) : Option Word := do
  let (name, rest) ← Text.cutAt? '=' argument
  let s ← Switch.ofSpelling? name
  return .option s (2 < name.length) (some rest)

/-- What an argument is that stands before any `--`. -/
def classify (argument : Text) : Except Misuse Word :=
  if !Text.startsWith '-' argument then .ok .operand
  else match Switch.ofSpelling? argument with
    | some s => .ok (.option s (2 < argument.length) none)
    | none =>
      if argument.length = 1 then .ok .operand
      else match marked? argument with
        | some word => .ok word
        | none => match candidates argument with
          | [(_, word)] => .ok word
          | [] =>
            if isNegativeNumber argument || argument.any (·.is ' ') then .ok .operand
            else .ok .unknown
          | several => .error (.ambiguous argument (several.map (·.1)))

/-- An argument that ends the options. -/
def endOfOptions : Text := "--"

/-- The arguments with what they are; after the end of options there are
operands only. The end of options itself can be the argument of no option. -/
def classifyAll : List Text → Except Misuse (List (Text × Word))
  | [] => .ok []
  | argument :: rest =>
    if argument = endOfOptions then
      .ok ((argument, .unknown) :: rest.map fun operand => (operand, .operand))
    else do
      let word ← classify argument
      return (argument, word) :: (← classifyAll rest)

/-! ## Options -/

/-- What an option asks for, where the argument after it may serve it. -/
inductive Demand
  | help
  /-- The argument is attached. -/
  | attached (s : Switch) (argument : Text)
  /-- The argument comes next. -/
  | next (s : Switch) (argument : Text)

/-- Checks what is attached to the short option for help: further short options,
of which the last one may lack its argument. -/
def checkBehindHelp (next : Option Text) : Text → Except Misuse Unit
  | [] => .error (.argumentIgnored .help [])
  | c :: rest =>
    match Switch.ofSpelling? [CodePoint.ofChar '-', c], rest with
    | none, _ => .error (.argumentIgnored .help (c :: rest))
    | some .help, [] => .ok ()
    | some .help, _ :: _ => checkBehindHelp next rest
    | some s, [] => if next.isSome then .ok () else .error (.argumentMissing s)
    | some _, _ :: _ => .ok ()

/-- What an option asks for. -/
def demand (next : Option Text) (s : Switch) (isLong : Bool) : Option Text → Except Misuse Demand
  | none =>
    if s.takesArgument then
      match next with
      | some argument => .ok (.next s argument)
      | none => .error (.argumentMissing s)
    else .ok .help
  | some argument =>
    if s.takesArgument then .ok (.attached s argument)
    else if isLong then .error (.argumentIgnored s argument)
    else (checkBehindHelp next argument).map fun _ => .help

/-- The request with an option that is given without a value. -/
def Request.withoutValue (request : Request) : Switch → Request
  | .help => request
  | .config => { request with config := none }
  | .length => { request with length := some .nothing }
  | .count => { request with count := .nothing }

/-- The request with an option's value taken in. -/
def Request.withValue (request : Request) (argument : Text) : Switch → Except Misuse Request
  | .help => .ok request
  | .config => .ok { request with config := some argument }
  | .length =>
    match Decimal.readInt 10 argument with
    | .ok n => .ok { request with length := some (.value n) }
    | .error _ => .error (.invalidInteger .length argument)
  | .count =>
    match Decimal.readInt 10 argument with
    | .ok n =>
      if n < 1 then .error (.countTooSmall n) else .ok { request with count := .value n.toNat }
    | .error _ => .error (.invalidCount argument)

/-- The request with an option's argument taken in. -/
def Request.accept (request : Request) (argument : Text) (s : Switch) : Except Misuse Request :=
  if argument = endOfOptions then .ok (request.withoutValue s) else request.withValue argument s

/-- The first argument ahead, if it is an operand. -/
def nextOperand? : List (Text × Word) → Option Text
  | (argument, .operand) :: _ => some argument
  | _ => none

/-- Reads arguments in order. Options take effect on the request; what is none
is put aside. An argument that the option before it has taken is passed over. -/
def readFrom (request : Request) (extras : List Text) (taken : Bool) :
    List (Text × Word) → Except Misuse Reading
  | [] =>
    if extras.isEmpty then .ok (.request request) else .error (.unrecognized extras)
  | (argument, word) :: rest =>
    if taken then readFrom request extras false rest
    else match word with
      | .operand | .unknown => readFrom request (extras ++ [argument]) false rest
      | .option s isLong attached => do
        match ← demand (nextOperand? rest) s isLong attached with
        | .help => return .help
        | .attached s argument => readFrom (← request.accept argument s) extras false rest
        | .next s argument => readFrom (← request.accept argument s) extras true rest

/-- What the arguments of the program come to. -/
def read (arguments : List Text) : Reading :=
  match classifyAll arguments >>= readFrom {} [] false with
  | .ok reading => reading
  | .error misuse => .misuse misuse

/-! ## Texts -/

/-- The name of the program. -/
def programName : Text := "cuid2"

/-- How the program is used, in a line. -/
def usage : Text := "usage: cuid2 [-h] [-l NUM] [-n NUM] [--config PATH]\n"

/-- A message about an option. -/
def about (s : Switch) (message : Text) : Text := Text.concat ["argument ", s.title, ": ", message]

/-- The wording of a misuse. -/
def Misuse.message : Misuse → Text
  | .ambiguous argument candidates =>
    Text.concat ["ambiguous option: ", argument, " could match ", Text.join ", " candidates]
  | .argumentMissing s => about s "expected one argument"
  | .argumentIgnored s argument =>
    about s (Text.concat ["ignored explicit argument ", argument.quoted])
  | .invalidInteger s argument => about s (Text.concat ["invalid int value: ", argument.quoted])
  | .invalidCount argument =>
    about .count (Text.concat ["invalid integer value: '", argument, "'"])
  | .countTooSmall n => about .count (Text.concat ["must be at least 1, got ", Text.ofInt n])
  | .unrecognized arguments =>
    Text.concat ["unrecognized arguments: ", Text.join " " arguments]

/-- The report on a misuse. -/
def Misuse.report (misuse : Misuse) : Text :=
  Text.concat [usage, programName, ": error: ", misuse.message, "\n"]

/-- What is shown to those who ask for help. -/
def helpText : Text := usage ++ Text.lines [
  "",
  "Generate collision-resistant CUID2 identifiers.",
  "",
  "options:",
  "  -h, --help            show this help message and exit",
  "  -l NUM, --length NUM  length of the generated id (default: from config or",
  "                        24, min: 4, max: 32)",
  "  -n NUM, --count NUM   number of identifiers to print, one per line (default:",
  "                        1)",
  "  --config PATH         path to a cuid2 config.yaml",
  "",
  "Examples:",
  "  cuid2                 # default length",
  "  cuid2 -l 16           # 16-character identifier",
  "  cuid2 --length 32     # maximum length"]

end IdMint.CommandLine
