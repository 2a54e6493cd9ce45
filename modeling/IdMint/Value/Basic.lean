import IdMint.Calendar
import IdMint.Fault
import IdMint.Decimal.Shortest

/-!
# Dynamic values

What a configuration file, a caller or a log field may hold. The operations are
the ones that need no knowledge of where a value came from: its type's name,
whether it counts as true, which integer it stands for, whether two values are
equal as keys of a dictionary, and looking a key up.

Values are trees. How deep one may be nested before a machine runs out of stack
is not settled here, and no operation fails for that.
-/

namespace IdMint

/-- A dynamic value. -/
inductive Value
  | null
  | bool (b : Bool)
  | int (n : Int)
  | float (x : Float)
  | text (t : Text)
  | bytes (b : Bytes)
  | date (d : Date)
  | timestamp (t : Timestamp)
  | list (items : List Value)
  | pair (first second : Value)
  | set (items : List Value)
  /-- A dictionary, in the order in which its keys came. -/
  | dict (entries : List (Value × Value))
  /-- A thing of another kind, by its answers: the integer that it stands for, if
  it does, and its literal form, unless that has an integer too long to be
  written. It answers the same whenever it is asked. -/
  | object (kind : Text) (index : Option Int) (shown : Option Text)
  /-- A collection that contains itself, at the place where it occurs again. -/
  | recurrence (isDict : Bool)

instance : Inhabited Value := ⟨.null⟩

instance : Coe Text Value := ⟨.text⟩

namespace Value

/-- The name of a value's type. -/
def typeName : Value → Text
  | null => "NoneType"
  | bool _ => "bool"
  | int _ => "int"
  | float _ => "float"
  | text _ => "str"
  | bytes _ => "bytes"
  | date _ => "datetime.date"
  | timestamp _ => "datetime.datetime"
  | list _ => "list"
  | pair _ _ => "tuple"
  | set _ => "set"
  | dict _ => "dict"
  | object kind _ _ => kind
  | recurrence isDict => if isDict then "dict" else "list"

/-- Whether a value counts as true: empty texts and collections and zeros do
not. -/
def isTrue : Value → Bool
  | null => false
  | bool b => b
  | int n => n != 0
  | float x => !(x == 0.0)
  | text t => !t.isEmpty
  | bytes b => !b.isEmpty
  | list items => !items.isEmpty
  | set items => !items.isEmpty
  | dict entries => !entries.isEmpty
  | date _ | timestamp _ | pair _ _ | object _ _ _ | recurrence _ => true

/-- The integer that a value stands for where an integer is wanted. Truth values
do not stand for integers. -/
def index? : Value → Option Int
  | int n => some n
  | object _ index _ => index
  | _ => none

/-- The value, unless it counts as false; a dictionary without entries then. -/
def orEmpty (v : Value) : Value := if v.isTrue then v else dict []

/-- The integer that a number is equal to, if there is one. -/
def asInteger? : Value → Option Int
  | bool b => some (if b then 1 else 0)
  | int n => some n
  | float x =>
    match Decimal.classify x.toBits with
    | .finite negative significand exponent =>
      let (n, d) := Decimal.powerOfTwo exponent
      let scaled := significand * n
      if scaled % d = 0 then
        some (if negative then -((scaled / d : Nat) : Int) else ((scaled / d : Nat) : Int))
      else none
    | _ => none
  | _ => none

/-- Whether two values are one key. Numbers are compared by value whatever their
type, and points in time by the moment; anything else has to be of the same
kind. Collections are no keys, and neither two of those nor two distinct things
of other kinds are ever equal. -/
def sameKey : Value → Value → Bool
  | null, null => true
  | text s, text t => s == t
  | bytes b, bytes c => b == c
  | date d, date e => d == e
  | timestamp s, timestamp t => s.isSame t
  | pair a b, pair c d => sameKey a c && sameKey b d
  | float x, float y => x == y
  | v, w =>
    match v.asInteger?, w.asInteger? with
    | some m, some n => m == n
    | _, _ => false

/-- Whether a value can be a member of a set or the key of a dictionary. -/
def isHashable : Value → Bool
  | list _ | set _ | dict _ | recurrence _ => false
  | pair a b => a.isHashable && b.isHashable
  | _ => true

/-- Puts an entry into a dictionary: in place of the one with the same key, or
at the end. -/
def insertBy {κ α : Type} (same : κ → κ → Bool) (key : κ) (value : α) : List (κ × α) → List (κ × α)
  | [] => [(key, value)]
  | (k, v) :: rest =>
    if same k key then (k, value) :: rest else (k, v) :: insertBy same key value rest

/-- The dictionary that comes of putting entries in one after another. -/
def ofEntriesBy {κ α : Type} (same : κ → κ → Bool) (entries : List (κ × α)) : List (κ × α) :=
  entries.foldl (fun dict (key, value) => insertBy same key value dict) []

/-- The dictionary of entries with values as keys. -/
def ofEntries (entries : List (Value × Value)) : List (Value × Value) := ofEntriesBy sameKey entries

/-- The value under a text key among the entries of a dictionary. -/
def lookUp? (key : Text) (entries : List (Value × Value)) : Option Value :=
  (entries.find? fun (k, _) => sameKey k (text key)).map (·.2)

/-- The value under a text key, if there is one. Only dictionaries can be asked. -/
def get? (v : Value) (key : Text) : Except Fault (Option Value) :=
  match v with
  | dict entries => .ok (lookUp? key entries)
  | other => .error (.noEntries other.typeName)

end Value

end IdMint
