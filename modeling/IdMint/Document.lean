import IdMint.Text.Reader
import IdMint.Value.Basic

/-!
# Documents

A configuration file is a text in some language, and what the text says is a
value. The language is not settled here: whoever loads settings is given a reader
of documents, which gets a file that has just been opened and gives the value in
it, or says what is wrong.
-/

namespace IdMint

/-- Why a file gives no value. -/
inductive Flaw
  /-- It breaks a rule of the language. -/
  | malformed
  /-- It obeys the rules but says something that has no value, or it cannot be
  decoded. -/
  | fault (fault : Fault)

/-- A way to read documents. -/
abbrev DocumentReader := Reader → Except Flaw Value

end IdMint
