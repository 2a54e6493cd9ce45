import IdMint.Yaml.Stream

/-!
# Tokens of a YAML stream

A stream is read as a list of tokens. Where blocks begin and end is told by
indentation in the text and by tokens here, and so is that a key begins, which
in the text often shows only afterwards.
-/

namespace IdMint.Yaml

/-- A token. -/
inductive Token
  | versionDirective (major : Nat)
  | tagDirective (handle tagPrefix : Text)
  | otherDirective
  | documentStart
  | documentEnd
  | blockSequenceStart
  | blockMappingStart
  | blockEnd
  | flowSequenceStart
  | flowSequenceEnd
  | flowMappingStart
  | flowMappingEnd
  | blockEntry
  | flowEntry
  | key
  | value
  | alias (name : List Char)
  | anchor (name : List Char)
  /-- A tag, with the handle of its namespace unless it is written in full. -/
  | tag (handle : Option Text) (suffix : Text)
  | scalar (text : Text) (plain : Bool)
  | streamEnd
  /-- The place where the stream ceases to make sense. -/
  | flaw (flaw : Flaw)

end IdMint.Yaml
