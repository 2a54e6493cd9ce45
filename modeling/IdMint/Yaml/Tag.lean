import IdMint.Yaml.Stamp
import IdMint.Yaml.Token

/-!
# Tags

A tag names the kind of value that a node stands for. A plain scalar without a
tag gets one from its spelling, by the rules of YAML 1.1; other nodes without a
tag are texts, sequences and mappings.
-/

namespace IdMint.Yaml

/-- The kinds of values that nodes stand for. -/
inductive Tag
  | null
  | bool
  | int
  | float
  | binary
  | timestamp
  | orderedMap
  | pairs
  | set
  | text
  | sequence
  | mapping
  /-- The key of a merge. -/
  | merge
  /-- The key of a mapping's default value. -/
  | defaultValue
  | unknown
deriving DecidableEq, Repr

namespace Tag

/-- The namespace of the tags of the language. -/
def nameSpace : Text := "tag:yaml.org,2002:"

/-- The names of the tags, in their namespace. -/
def names : List (Text × Tag) := [
  ("null", null), ("bool", bool), ("int", int), ("float", float), ("binary", binary),
  ("timestamp", timestamp), ("omap", orderedMap), ("pairs", pairs), ("set", set), ("str", text),
  ("seq", sequence), ("map", mapping), ("merge", merge), ("value", defaultValue)]

/-- The tag with a full name. -/
def ofName (name : Text) : Tag :=
  match names.find? fun (short, _) => nameSpace ++ short = name with
  | some (_, tag) => tag
  | none => unknown

/-- The tags of scalars. -/
def isScalar : Tag → Bool
  | null | bool | int | float | timestamp | binary | text => true
  | _ => false

/-- The tags of collections. -/
def isCollection : Tag → Bool
  | sequence | mapping | set | orderedMap | pairs => true
  | _ => false

/-! ## Spellings of plain scalars -/

/-- The spellings of truth values. -/
def truths : List (String × Bool) := [
  ("yes", true), ("no", false), ("true", true), ("false", false), ("on", true), ("off", false)]

/-- A word in lower case, capitalised or in upper case. -/
def isCased (word : String) (cs : List Char) : Bool :=
  cs == word.toList || cs == word.toList.map Char.toUpper
    || cs == word.capitalize.toList

/-- Splits an optional sign off. -/
def dropSign : List Char → List Char
  | '+' :: rest | '-' :: rest => rest
  | cs => cs

/-- A decimal digit or an underscore. -/
def isDigitOrGap (c : Char) : Bool := c.isDigit || c == '_'

/-- A digit of a base, or an underscore, and no other, and at least one of them. -/
def areDigits (isDigit : Char → Bool) (cs : List Char) : Bool :=
  !cs.isEmpty && cs.all fun c => isDigit c || c == '_'

/-- A number below sixty, of one or two digits. -/
def isSixtieth : List Char → Bool
  | [c] => c.isDigit
  | [c, d] => '0' ≤ c && c ≤ '5' && d.isDigit
  | _ => false

/-- The pieces of a text between colons. -/
def splitColons : List Char → List (List Char)
  | [] => [[]]
  | ':' :: rest => [] :: splitColons rest
  | c :: rest => match splitColons rest with
    | [] => [[c]]
    | piece :: pieces => (c :: piece) :: pieces

/-- A number and at least one part in base sixty after it. -/
def isSexagesimal (isHead : Char → Bool) (cs : List Char) : Bool :=
  match splitColons cs with
  | (first :: more) :: part :: parts =>
    isHead first && more.all isDigitOrGap && (part :: parts).all isSixtieth
  | _ => false

/-- A digit from one on. -/
def isNonzeroDigit (c : Char) : Bool := '1' ≤ c && c ≤ '9'

/-- The spelling of an integer. -/
def isInt (cs : List Char) : Bool :=
  let body := dropSign cs
  (match body with
    | '0' :: 'b' :: digits => areDigits (fun c => c == '0' || c == '1') digits
    | '0' :: 'x' :: digits =>
      areDigits (fun c => c.isDigit || ('a' ≤ c && c ≤ 'f') || ('A' ≤ c && c ≤ 'F')) digits
    | ['0'] => true
    | '0' :: digits => areDigits (fun c => '0' ≤ c && c ≤ '7') digits
    | c :: digits => isNonzeroDigit c && digits.all isDigitOrGap
    | [] => false)
  || isSexagesimal isNonzeroDigit body

/-- Digits and underscores, and possibly an exponent with a sign after them. -/
def isFraction (cs : List Char) : Bool :=
  match cs.dropWhile isDigitOrGap with
  | [] => true
  | e :: sign :: digits =>
    (e == 'e' || e == 'E') && (sign == '+' || sign == '-') && !digits.isEmpty
      && digits.all Char.isDigit
  | _ => false

/-- The spelling of a floating-point number: there is a point in it. -/
def isFloat (cs : List Char) : Bool :=
  let body := dropSign cs
  match body.span (· ≠ '.') with
  | (_, []) => false
  | ([], _ :: after) =>
    isCased "inf" after || (cs == body && ((match after with
      | c :: _ => c.isDigit && isFraction after
      | [] => false) || after == "nan".toList || after == "NaN".toList || after == "NAN".toList))
  | (first :: more, _ :: after) =>
    (first.isDigit && more.all isDigitOrGap && isFraction after)
      || (isSexagesimal Char.isDigit (first :: more) && after.all isDigitOrGap)

/-- The spelling of a point in time. A day on its own has two digits for month
and day. -/
def isTimestamp (cs : List Char) : Bool :=
  match Stamp.read? cs with
  | some stamp => stamp.time.isSome || cs.length = 10
  | none => false

/-- The tag of a plain scalar. -/
def ofPlain (cs : List Char) : Tag :=
  if truths.any fun (word, _) => isCased word cs then bool
  else if isFloat cs then float
  else if isInt cs then int
  else if cs == "<<".toList then merge
  else if cs.isEmpty || cs == ['~'] || isCased "null" cs then null
  else if isTimestamp cs then timestamp
  else if cs == ['='] then defaultValue
  else if cs == ['!'] || cs == ['&'] || cs == ['*'] then unknown
  else text

end Tag

end IdMint.Yaml
