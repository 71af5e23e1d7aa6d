import HouseRules.Text.Quoted

/-! # JSON strings

A text as a JSON string literal. Quotes, backslashes and the controls below the blank are always
escaped; the delete character and all that is outside ASCII only if the literal has to be printable
ASCII, those beyond the first plane as a pair of surrogates. -/

namespace HouseRules.Json

/-- Which characters a literal may hold. -/
inductive Charset where
  /-- Printable ASCII characters only. -/
  | ascii
  /-- All characters. -/
  | unicode
deriving DecidableEq, Repr

/-- A unit of 16 bits as an escape. -/
def unitEscape (n : Nat) : List Char := '\\' :: 'u' :: Text.hexDigits 4 n

/-- A code point as one escape, or as two for the surrogates beyond the first plane. -/
def codeEscape (n : Nat) : List Char :=
  if n < 0x10000 then unitEscape n
  else unitEscape (0xD800 + (n - 0x10000) / 0x400) ++ unitEscape (0xDC00 + (n - 0x10000) % 0x400)

/-- A character inside a literal. -/
def literalChar (charset : Charset) (c : Char) : List Char :=
  if c = '"' then ['\\', '"']
  else if c = '\\' then ['\\', '\\']
  else if c = '\n' then ['\\', 'n']
  else if c = '\r' then ['\\', 'r']
  else if c = '\t' then ['\\', 't']
  else if c.toNat = 0x08 then ['\\', 'b']
  else if c.toNat = 0x0C then ['\\', 'f']
  else if c.toNat < 0x20 then unitEscape c.toNat
  else if charset = .ascii && 0x7E < c.toNat then codeEscape c.toNat
  else [c]

/-- The characters of a literal. -/
def literalChars (charset : Charset) (cs : List Char) : List Char :=
  '"' :: cs.flatMap (literalChar charset) ++ ['"']

/-- A text as a literal. -/
def literal (charset : Charset) (s : String) : String :=
  String.ofList (literalChars charset s.toList)

end HouseRules.Json
