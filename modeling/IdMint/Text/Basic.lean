/-!
# Text

A text is a list of code points. Host names, environment variables and
command-line arguments may hold bytes that are no UTF-8; the boundary to the
operating system hands each of those over as a lone surrogate. So a code point
ranges over the whole of `0 … 0x10FFFF`, surrogates included, and not only over
the scalar values that `Char` admits.

The operations here are the ones every message and every report is put together
from: literals, joining, padding, decimal integers and hexadecimal numerals of a
fixed width.
-/

namespace IdMint

/-- A Unicode code point, surrogates included. -/
abbrev CodePoint := Fin 0x110000

instance (priority := 2000) neZeroCodePoints : @NeZero Nat Zero.ofOfNat0 0x110000 := ⟨by decide⟩

/-- A text: code points in reading order. -/
abbrev Text := List CodePoint

namespace CodePoint

/-- The code point of a scalar value. -/
def ofChar (c : Char) : CodePoint :=
  ⟨c.val.toNat, by
    have h := c.valid
    simp only [UInt32.isValidChar, Nat.isValidChar] at h
    omega⟩

instance : Coe Char CodePoint := ⟨ofChar⟩

/-- `c.is x`: the code point `c` is the character `x`. -/
def is (c : CodePoint) (x : Char) : Bool := c.val == x.val.toNat

/-- The code points `U+D800 … U+DFFF`, which are no characters. -/
def isSurrogate (c : CodePoint) : Bool := 0xD800 ≤ c.val && c.val ≤ 0xDFFF

/-- The surrogates `U+DC80 … U+DCFF`, each of which stands for one byte
`0x80 … 0xFF` that was no UTF-8 where the text came from. -/
def isEscapedByte (c : CodePoint) : Bool := 0xDC80 ≤ c.val && c.val ≤ 0xDCFF

/-- The character at a code point, unless that is a surrogate. -/
def toChar? (c : CodePoint) : Option Char :=
  if h : c.val.isValidChar then some (Char.ofNatAux c.val h) else none

/-- Where a table of arithmetic progressions moves a code point, if it does. A
row of the table holds the first and the last code point of a progression, its
step, and the distance that its members move. -/
def moved? (table : List (Nat × Nat × Nat × Int)) (c : CodePoint) : Option CodePoint :=
  let row? := table.find? fun (first, last, step, _) =>
    first ≤ c.val && c.val ≤ last && (c.val - first) % step == 0
  row?.map fun row => Fin.ofNat 0x110000 ((c.val : Int) + row.2.2.2).toNat

theorem isSurrogate_of_isEscapedByte {c : CodePoint} (h : c.isEscapedByte = true) :
    c.isSurrogate = true := by
  simp only [isEscapedByte, isSurrogate, Bool.and_eq_true, decide_eq_true_eq] at *
  omega

end CodePoint

namespace Text

/-- The text of a string literal or of any other string of characters. -/
def ofString (s : String) : Text := s.toList.map CodePoint.ofChar

instance : Coe String Text := ⟨ofString⟩

/-- The text as a string, unless it holds a surrogate. -/
def toString? (t : Text) : Option String := (t.mapM CodePoint.toChar?).map String.ofList

/-- `startsWith x t`: the text `t` begins with the character `x`. -/
def startsWith (x : Char) : Text → Bool
  | [] => false
  | c :: _ => c.is x

/-- The parts one after another. -/
def concat (parts : List Text) : Text := parts.flatten

/-- The parts with a separator between any two neighbours. -/
def join (separator : Text) : List Text → Text
  | [] => []
  | [part] => part
  | part :: rest => part ++ separator ++ join separator rest

/-- The parts, each followed by a line break. -/
def lines (parts : List Text) : Text := parts.flatMap (· ++ ("\n" : Text))

/-- The text, filled up with spaces on the right to at least `width` code
points. -/
def padRight (width : Nat) (t : Text) : Text := t ++ List.replicate (width - t.length) (CodePoint.ofChar ' ')

/-- The text without the spaces at its end. -/
def dropTrailingSpaces (t : Text) : Text := (t.reverse.dropWhile (·.is ' ')).reverse

/-- The pieces between the occurrences of a separator; `n` separators make
`n + 1` pieces. -/
def splitOn (separator : Char) : Text → List Text
  | [] => [[]]
  | c :: rest =>
    if c.is separator then [] :: splitOn separator rest
    else match splitOn separator rest with
      | [] => [[c]]
      | piece :: pieces => (c :: piece) :: pieces

/-- The text splits at the first occurrence of a separator, if there is one. -/
def cutAt? (separator : Char) (t : Text) : Option (Text × Text) :=
  match t.span (!·.is separator) with
  | (before, _ :: after) => some (before, after)
  | (_, []) => none

/-- Code-point order, shorter texts before their extensions. -/
def le : Text → Text → Bool
  | [], _ => true
  | _ :: _, [] => false
  | a :: s, b :: t => if a.val < b.val then true else if b.val < a.val then false else le s t

/-- The decimal numeral of a natural number. -/
def ofNat (n : Nat) : Text := (Nat.toDigits 10 n).map CodePoint.ofChar

/-- The decimal numeral of an integer, with a minus sign where it is negative. -/
def ofInt : Int → Text
  | .ofNat n => ofNat n
  | .negSucc n => '-' :: ofNat (n + 1)

/-- A numeral filled up with zeros on the left to at least `width` digits. -/
def zeroPadded (width : Nat) (numeral : Text) : Text :=
  List.replicate (width - numeral.length) (CodePoint.ofChar '0') ++ numeral

/-- The lower-case hexadecimal numeral of `n`, with at least `width` digits. -/
def hex (width n : Nat) : Text :=
  zeroPadded width ((Nat.toDigits 16 n).map CodePoint.ofChar)

@[simp] theorem concat_nil : concat [] = [] := rfl

@[simp] theorem concat_cons (t : Text) (ts : List Text) : concat (t :: ts) = t ++ concat ts := rfl

theorem length_padRight (width : Nat) (t : Text) :
    (padRight width t).length = max width t.length := by
  simp [padRight]; omega

end Text

end IdMint
