import IdMint.Fault

/-!
# Environments as bytes

An environment is a list of names and values. A name that comes again keeps its
first place and takes the later value. The serialisation writes `name=value` for
every name, in the byte order of the encoded names, without separators.

All names are encoded before any value is, so a name that has no encoding is
reported even if a value before it has none either.
-/

namespace IdMint.Environment

/-- Puts a variable in: in place of the one with that name, or at the end. -/
def insert (name value : Text) : List (Text × Text) → List (Text × Text)
  | [] => [(name, value)]
  | (n, v) :: rest => if n = name then (n, value) :: rest else (n, v) :: insert name value rest

/-- The variables, each once, with its last value. -/
def unique (pairs : List (Text × Text)) : List (Text × Text) :=
  pairs.foldl (fun env (name, value) => insert name value env) []

/-- The bytes of a text; a text without an encoding is a fault. -/
def encode (t : Text) : Except Fault Bytes := (Utf8.encode t).mapError Fault.unencodable

/-- A variable together with the bytes of its name. -/
def withKey (setting : Text × Text) : Except Fault (Bytes × Text × Text) :=
  (encode setting.1).map fun key => (key, setting)

/-- The bytes of a variable. -/
def entry (name value : Text) : Except Fault Bytes := encode (name ++ CodePoint.ofChar '=' :: value)

/-- The bytes of an environment. -/
def serialize (pairs : List (Text × Text)) : Except Fault Bytes := do
  let keyed ← (unique pairs).mapM withKey
  let sorted := keyed.mergeSort fun a b => Bytes.le a.1 b.1
  let entries ← sorted.mapM fun (_, name, value) => entry name value
  return entries.flatten

end IdMint.Environment
