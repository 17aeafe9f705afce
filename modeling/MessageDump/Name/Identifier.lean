/-! # Identifiers

Names that the generated source can use as they are, the keywords among them,
and the escaped form under which a field named like a keyword is reached.
-/
namespace MessageDump
namespace Name

/-- Keywords that the generated source can write as raw identifiers. -/
def keywords : List String :=
  ["as", "async", "await", "break", "const", "continue", "dyn", "else", "enum", "extern",
   "false", "fn", "for", "if", "impl", "in", "let", "loop", "match", "mod", "move", "mut",
   "pub", "ref", "return", "static", "struct", "trait", "true", "type", "unsafe", "use",
   "where", "while", "abstract", "become", "box", "do", "final", "gen", "macro", "override",
   "priv", "try", "typeof", "unsized", "virtual", "yield"]

/-- Keywords that have no raw form. -/
def reservedWords : List String := ["self", "super", "crate", "Self"]

/-- Whether a character may start an identifier. -/
def isStart (c : Char) : Bool := c.isAlpha || c = '_'

/-- Whether a character may follow in an identifier. -/
def isPart (c : Char) : Bool := c.isAlphanum || c = '_'

/-- The identifier check on the characters of a name.  A lone underscore is a
placeholder and not a name. -/
def identifierChars : List Char → Bool
  | [] => false
  | c :: rest => isStart c && (c :: rest) != ['_'] && rest.all isPart

/-- Whether a name is an ASCII letter or an underscore, followed by ASCII
letters, digits and underscores, and not a lone underscore. -/
def isIdentifier (name : String) : Bool :=
  identifierChars name.toList

/-- Whether a name is a keyword, with or without a raw form. -/
def isKeyword (name : String) : Bool :=
  keywords.contains name || reservedWords.contains name

/-- The identifier under which the generated source reaches a field of the given
name: reserved words take an underscore behind, other keywords their raw form. -/
def escaped (name : String) : String :=
  if reservedWords.contains name then name ++ "_"
  else if keywords.contains name then "r#" ++ name
  else name

end Name
end MessageDump
