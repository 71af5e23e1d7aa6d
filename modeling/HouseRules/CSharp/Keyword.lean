/-! # Keywords of C#

The words that cannot be names, the words that name types of the language itself, the words that may
stand in front of a declaration, and the words that start something else than a type although they
could be names. -/

namespace HouseRules.CSharp

/-- The types that the language names by keywords. -/
def typeKeywords : List String :=
  ["bool", "byte", "char", "decimal", "double", "float", "int", "long", "object", "sbyte", "short",
    "string", "uint", "ulong", "ushort", "void"]

/-- The other words that cannot be names. -/
def reservedWords : List String :=
  ["abstract", "as", "base", "break", "case", "catch", "checked", "class", "const", "continue",
    "default", "delegate", "do", "else", "enum", "event", "explicit", "extern", "false", "finally",
    "fixed", "for", "foreach", "goto", "if", "implicit", "in", "interface", "internal", "is", "lock",
    "namespace", "new", "null", "operator", "out", "override", "params", "private", "protected",
    "public", "readonly", "ref", "return", "sealed", "sizeof", "stackalloc", "static", "struct",
    "switch", "this", "throw", "true", "try", "typeof", "unchecked", "unsafe", "using", "virtual",
    "volatile", "while"]

/-- The words that may stand in front of a declaration. -/
def modifiers : List String :=
  ["abstract", "async", "const", "extern", "file", "fixed", "internal", "new", "override", "partial",
    "private", "protected", "public", "readonly", "required", "sealed", "static", "unsafe",
    "virtual", "volatile"]

/-- The words that continue or start an expression when something follows them, and so start no
type. -/
def expressionWords : List String :=
  ["and", "ascending", "await", "by", "descending", "equals", "from", "group", "into", "join", "let",
    "not", "on", "or", "orderby", "select", "when", "where", "with", "yield"]

/-- The words that start the declaration of a type with a body. -/
def typeDeclarators : List String := ["class", "enum", "interface", "struct"]

/-- The word can be a name. -/
def isName (w : String) : Bool := !typeKeywords.contains w && !reservedWords.contains w

/-- The word can be the first name of a type. -/
def startsTypeName (w : String) : Bool := isName w && !expressionWords.contains w

end HouseRules.CSharp
