import IdMint.Identifier

/-!
# Outcomes of a request

What comes of asking for an identifier: the identifier, or one of the two kinds
of failure that callers are promised, with a message. `Outcome.unwrap` turns an
outcome into an answer or a fault.
-/

namespace IdMint

/-- The kinds of failure that callers are promised. -/
inductive FailureKind
  | invalidArgument
  | cryptoFailure
deriving DecidableEq, Repr

namespace FailureKind

/-- The name of a kind of failure. -/
def name : FailureKind → Text
  | invalidArgument => "invalid_argument"
  | cryptoFailure => "crypto_failure"

/-- The kind of failure with a given name. -/
def ofName (t : Text) : Except Fault FailureKind :=
  if t = invalidArgument.name then .ok invalidArgument
  else if t = cryptoFailure.name then .ok cryptoFailure
  else .error (.unknownFailureKind t)

end FailureKind

/-- The fault of a length that is not acceptable. Without a message it states
the bounds. -/
def Fault.ofInvalidArgument (message : Option Text := none)
    (minimum : Int := minLength) (maximum : Int := maxLength) : Fault :=
  let stated := message.getD []
  .invalidArgument
    (if stated.isEmpty then
      Text.concat ["length must be between ", Text.ofInt minimum, " and ", Text.ofInt maximum]
    else stated)
    minimum maximum

/-- What a failure of the hash primitive is called where nothing more is known
about it. -/
def cryptoFailureText : Text := "SHA3-512 hashing failed"

/-- What came of a request. -/
structure Outcome where
  value : Option Text := none
  error : Option FailureKind := none
  message : Option Text := none
deriving DecidableEq

namespace Outcome

/-- An identifier. -/
def success (value : Text) : Outcome := { value := some value }

/-- A failure, with its message. -/
def failure (kind : FailureKind) (message : Text) : Outcome :=
  { error := some kind, message := some message }

/-- The outcome is no failure. -/
def ok (outcome : Outcome) : Bool := outcome.error.isNone

/-- The fault that a failure amounts to. -/
def fault? (outcome : Outcome) : Option Fault :=
  outcome.error.map fun
    | .invalidArgument => Fault.ofInvalidArgument outcome.message
    | .cryptoFailure =>
      let stated := outcome.message.getD []
      .cryptoFailure (if stated.isEmpty then cryptoFailureText else stated)

/-- The identifier, or the fault that the outcome amounts to. -/
def unwrap (outcome : Outcome) : Except Fault Text :=
  match outcome.fault?, outcome.value with
  | some fault, _ => .error fault
  | none, some value => .ok value
  | none, none =>
    .error (.noIdentifier "generation result holds neither an identifier nor an error")

end Outcome

end IdMint
