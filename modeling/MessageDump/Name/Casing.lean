import MessageDump.Text.Split
import MessageDump.Text.Uppercase
/-! # Casing conventions

Three conversions between the conventions for names: camel case for the keys of
JSON output, Pascal case for enum and variant names, snake case for file and
module names.
-/
namespace MessageDump
namespace Name

/-- Camel case of the rest of a name, given whether an underscore was just
dropped. -/
def camelChars (afterUnderscore : Bool) : List Char → List Char
  | [] => []
  | c :: rest =>
    if c = '_' then camelChars true rest
    else (if afterUnderscore then c.toUpper else c) :: camelChars false rest

/-- Camel case: underscores are dropped, and a lower-case ASCII letter right
after one or more of them is put in upper case. -/
def camel (name : String) : String :=
  String.ofList (camelChars false name.toList)

/-- A word with its first character in upper case. -/
def capitalized : List Char → List Char
  | [] => []
  | c :: rest => Text.uppercase c ++ rest

/-- Pascal case of the characters of a name. -/
def pascalChars (cs : List Char) : List Char :=
  (Text.splitAt '_' cs).flatMap capitalized

/-- Pascal case: the words between underscores, each capitalized. -/
def pascal (name : String) : String :=
  String.ofList (pascalChars name.toList)

/-- Whether a word starts at a capital letter, given its neighbours: after a
lower-case letter or a digit always, after a capital only if a lower-case letter
follows, so that a run of capitals gives its last one to the next word. -/
def startsWord (before after : Option Char) : Bool :=
  match before with
  | none => false
  | some p =>
    if p.isLower || p.isDigit then true
    else p.isUpper && after.any Char.isLower

/-- Snake case of the rest of a name, given the character before it. -/
def snakeChars (before : Option Char) : List Char → List Char
  | [] => []
  | c :: rest =>
    if c.isUpper then
      if startsWord before rest.head? then '_' :: c.toLower :: snakeChars (some c) rest
      else c.toLower :: snakeChars (some c) rest
    else c :: snakeChars (some c) rest

/-- Snake case: ASCII capitals in lower case, with an underscore where a word
starts. -/
def snake (name : String) : String :=
  String.ofList (snakeChars none name.toList)

end Name
end MessageDump
