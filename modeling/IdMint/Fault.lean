import IdMint.Text.Quoted
import IdMint.Text.Utf8
import IdMint.Decimal.Integer

/-!
# Faults

Every way in which an operation of this library can fail, as causes; the wording
of each is one function, `Fault.message`. Two of them are the failures that
callers of the generator are promised (`invalidArgument`, `cryptoFailure`). The
others belong to the platform underneath, to texts and numbers that have no
written form, or to configuration files of an unforeseen shape.
-/

namespace IdMint

/-- The kinds of failure that come in from outside, from the platform or the
hash primitive. -/
inductive OutsideKind
  /-- The operating system refused. -/
  | system
  | permission
  | timeout
  | connection
  /-- A value was not acceptable. -/
  | value
  | type
  | key
  | runtime
  | memory
  /-- Any other kind, by its name. -/
  | other (name : String)
deriving DecidableEq, Repr

/-- The kinds by which an operating system refuses. -/
def OutsideKind.isSystem : OutsideKind → Bool
  | .system | .permission | .timeout | .connection => true
  | _ => false

/-- What is wrong with a date or a time of day. -/
inductive CalendarDefect
  | year
  | month
  | day
  | hour
  | minute
  | second
  /-- The distance from universal time, in seconds, is a day or more. -/
  | offset (seconds : Int)
deriving DecidableEq, Repr

/-- The causes of failure. -/
inductive Fault
  /-- It came in from outside, with a text of its own. -/
  | outside (kind : OutsideKind) (text : Text)
  /-- The requested length is not acceptable. -/
  | invalidArgument (message : Text) (minimum maximum : Int)
  /-- The hash primitive gave no usable digest. -/
  | cryptoFailure (message : Text)
  /-- Any other failure of an identifier. -/
  | noIdentifier (message : Text)
  | unencodable (defect : Utf8.Unencodable)
  | undecodable (defect : Utf8.Undecodable)
  /-- A name that is looked up in the system has a zero byte in it. -/
  | embeddedNull
  /-- An integer has too many digits to be written. -/
  | unwritable
  /-- A numeral has too many digits to be read. -/
  | numeralTooLong (digits : Nat)
  | malformedNumeral (base : Nat) (numeral : Text)
  | malformedFloat (numeral : Text)
  /-- A numeral has no characters. -/
  | emptyNumeral
  /-- A value that is no dictionary was asked for an entry. -/
  | noEntries (typeName : Text)
  /-- A value of a kind that can be no member of a set was looked up in one. -/
  | unhashable (typeName : Text)
  /-- The name of a severity is unknown. -/
  | unknownSeverity (name : Text)
  /-- What was given for a severity is this text. -/
  | noSeverity (text : Text)
  /-- A value of this type was given for an integer. -/
  | noInteger (typeName : Text)
  /-- A value of this type was given for a text. -/
  | noText (typeName : Text)
  /-- A value of this type was given for the spelling of a point in time. -/
  | noSpelling (typeName : Text)
  /-- A field of a journal entry has a name that its writer keeps for itself. -/
  | fieldTaken (writer name : Text)
  /-- A value is nested too deeply, or without end. -/
  | tooDeep
  /-- The name of a failure kind is unknown. -/
  | unknownFailureKind (name : Text)
  /-- A word for a truth value is unknown. -/
  | unknownTruth (word : Text)
  /-- A text marked as a point in time is none. -/
  | noTimestamp
  /-- An integer is beyond the range of floating-point numbers. -/
  | beyondFloat
  /-- No code point has this number. -/
  | noCodePoint (n : Nat)
  | calendar (defect : CalendarDefect)
  /-- A dictionary cannot be written because of a key of this type. -/
  | unwritableKey (typeName : Text)
  /-- The program ends with an exit code, after a report. -/
  | stop (code : Nat) (report : Text)
deriving DecidableEq, Repr

/-- The wording of a defect in a date or a time of day. -/
def CalendarDefect.message : CalendarDefect → Text
  | .year => "year 0 is out of range"
  | .month => "month must be in 1..12"
  | .day => "day is out of range for month"
  | .hour => "hour must be in 0..23"
  | .minute => "minute must be in 0..59"
  | .second => "second must be in 0..59"
  | .offset seconds =>
    let days := Int.fdiv seconds 86400
    let rest := Int.fmod seconds 86400
    let span : Text :=
      if rest = 0 then Text.concat ["days=", Text.ofInt days]
      else Text.concat ["days=", Text.ofInt days, ", seconds=", Text.ofInt rest]
    Text.concat ["offset must be a timedelta strictly between -timedelta(hours=24) and ",
      "timedelta(hours=24), not datetime.timedelta(", span, ")."]

namespace Fault

/-- How much of a malformed numeral is shown. -/
def quotationLimit : Nat := 200

/-- The wording of a failure. -/
def message : Fault → Text
  | .outside .key text => Text.quoted text
  | .outside _ text => text
  | .invalidArgument message _ _ => message
  | .cryptoFailure message => message
  | .noIdentifier message => message
  | .unencodable defect => defect.message
  | .undecodable defect => defect.message
  | .embeddedNull => "embedded null byte"
  | .unwritable =>
    Text.concat ["Exceeds the limit (", Text.ofNat Decimal.digitLimit,
      " digits) for integer string conversion; ",
      "use sys.set_int_max_str_digits() to increase the limit"]
  | .numeralTooLong digits =>
    Text.concat ["Exceeds the limit (", Text.ofNat Decimal.digitLimit,
      " digits) for integer string conversion: value has ", Text.ofNat digits,
      " digits; use sys.set_int_max_str_digits() to increase the limit"]
  | .malformedNumeral base numeral =>
    Text.concat ["invalid literal for int() with base ", Text.ofNat base, ": ",
      (Text.quoted numeral).take quotationLimit]
  | .malformedFloat numeral =>
    Text.concat ["could not convert string to float: ", Text.quoted numeral]
  | .emptyNumeral => "string index out of range"
  | .noEntries typeName => Text.concat ["'", typeName, "' object has no attribute 'get'"]
  | .unhashable typeName => Text.concat ["unhashable type: '", typeName, "'"]
  | .unknownSeverity name => Text.concat ["module 'logging' has no attribute '", name, "'"]
  | .noSeverity text => Text.quoted text
  | .noInteger typeName =>
    Text.concat ["'", typeName, "' object cannot be interpreted as an integer"]
  | .noText typeName => Text.concat ["can only concatenate str (not \"", typeName, "\") to str"]
  | .noSpelling typeName =>
    Text.concat ["expected string or bytes-like object, got '", typeName, "'"]
  | .fieldTaken writer name =>
    Text.concat [writer, "() got multiple values for argument '", name, "'"]
  | .tooDeep => "maximum recursion depth exceeded"
  | .unknownFailureKind name => Text.concat [Text.quoted name, " is not a valid ErrorKind"]
  | .unknownTruth word => Text.quoted word
  | .noTimestamp => "'NoneType' object has no attribute 'groupdict'"
  | .beyondFloat => "int too large to convert to float"
  | .noCodePoint n =>
    if n < 0x80000000 then "chr() arg not in range(0x110000)"
    else "Python int too large to convert to C int"
  | .calendar defect => defect.message
  | .unwritableKey typeName =>
    Text.concat ["keys must be str, int, float, bool or None, not ", typeName]
  | .stop code _ => Text.ofNat code

/-- The operating system refused. -/
def isSystemRefusal : Fault → Bool
  | .outside kind _ => kind.isSystem
  | _ => false

/-- An integer was not acceptable, or a value had the wrong type: the failures
by which a hash primitive announces that it cannot do its work. -/
def isRejectedValue : Fault → Bool
  | .outside .value _ | .outside .type _ | .invalidArgument _ _ _ | .unencodable _ | .undecodable _
  | .embeddedNull | .unwritable | .numeralTooLong _ | .malformedNumeral _ _ | .malformedFloat _
  | .unhashable _ | .noInteger _ | .noText _ | .noSpelling _ | .fieldTaken _ _
  | .unknownFailureKind _ | .calendar _ | .unwritableKey _ => true
  | .noCodePoint n => n < 0x80000000
  | _ => false

/-- A failure that callers of the generator are promised. -/
def isIdentifierFailure : Fault → Bool
  | .invalidArgument _ _ _ | .cryptoFailure _ | .noIdentifier _ => true
  | _ => false

end Fault

end IdMint
