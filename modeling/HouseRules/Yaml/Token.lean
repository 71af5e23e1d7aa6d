/-! # Tokens of YAML

A document is a sequence of tokens. Indentation is turned into tokens that open and close block
collections; a mapping key that is not marked as one gets its mark in front when the colon behind
it is met. -/

namespace HouseRules.Yaml

/-- A directive, which stands in front of a document. -/
inductive Directive where
  /-- The version of the language. -/
  | version (major minor : Nat)
  /-- A short form of the start of tags. -/
  | shorthand (handle start : String)
  /-- A directive without a meaning. -/
  | other
  deriving DecidableEq, Repr

/-- A token. -/
inductive Token where
  /-- A directive. -/
  | directive (d : Directive)
  /-- The line of three dashes in front of a document. -/
  | documentStart
  /-- The line of three dots behind a document. -/
  | documentEnd
  /-- The end of the text. -/
  | streamEnd
  /-- Entries of a sequence begin, one to a line. -/
  | blockSequenceStart
  /-- Keys of a mapping begin, one to a line. -/
  | blockMappingStart
  /-- The innermost block collection ends. -/
  | blockEnd
  /-- An opening square bracket. -/
  | flowSequenceStart
  /-- A closing square bracket. -/
  | flowSequenceEnd
  /-- An opening brace. -/
  | flowMappingStart
  /-- A closing brace. -/
  | flowMappingEnd
  /-- The dash of an entry. -/
  | blockEntry
  /-- A comma. -/
  | flowEntry
  /-- A mapping key follows. -/
  | key
  /-- A mapping value follows. -/
  | value
  /-- A reference to a node. -/
  | alias (name : String)
  /-- A name for the node that follows. -/
  | anchor (name : String)
  /-- A type for the node that follows, as a short form, if there is one, and the rest. -/
  | tag (handle : Option String) (rest : String)
  /-- A scalar; a plain one is written without quotation marks. -/
  | scalar (text : String) (plain : Bool)
  deriving DecidableEq, Repr

/-- Why a text cannot be read. -/
inductive Error where
  /-- The text is not well formed, or a node is not of its type. -/
  | malformed
  /-- An escape names no character. -/
  | noCharacter (code : Nat)
  /-- A scalar is no boolean. -/
  | notBoolean (text : String)
  /-- A scalar is no number in the given base. -/
  | notInteger (base : Nat) (text : String)
  /-- A scalar is no number with a fraction. -/
  | notReal (text : String)
  /-- A number has no characters. -/
  | emptyNumber
  /-- A scalar is no date. -/
  | notDate
  /-- A date has a part out of its range, in words. -/
  | dateRange (words : String)
  deriving DecidableEq, Repr

end HouseRules.Yaml
