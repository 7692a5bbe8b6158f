import Assay.Language
import Assay.Pattern.Build

/-!
# What the lines of a language say

For every language the marks that open a comment line and the patterns that tell decisions,
declarations, imports and exports. A language without a pattern has none of the thing.

* `commentMarks`, `isComment`: comment lines;
* `decisions`, `decisionCount`: the words and signs at which control may go two ways;
* `functions?`, `classes?`: declarations;
* `imports?`, `exports?`: names that come from elsewhere or go there; the name is in the first
  group that took part.
-/

namespace Assay.Language

open Pattern

def slashMarks : List String := ["//", "/*", "*"]

def hashMarks : List String := ["#"]

/-- The marks at which a comment line starts. -/
def commentMarks : Language → List String
  | python | ruby => hashMarks
  | php => slashMarks ++ hashMarks
  | _ => slashMarks

/-- Whether a trimmed line is a comment. -/
def isComment (l : Language) (line : List Char) : Bool :=
  l.commentMarks.any fun mark => mark.toList.isPrefixOf line

/-- Decisions of the languages that write blocks in braces. -/
def braceDecisions : Pattern :=
  anyOf [wholeWord ["if", "else", "while", "for", "switch", "case", "catch"], lit "&&", lit "||",
    one .blank ++ lit "?" ++ one .blank]

/-- The decisions of a language. -/
def decisions : Language → Pattern
  | python => wholeWord ["if", "elif", "else", "while", "for", "try", "except", "and", "or"]
  | ruby =>
    anyOf [wholeWord ["if", "elsif", "else", "unless", "while", "until", "for", "case", "when",
      "rescue"], lit "&&", lit "||"]
  | rust => anyOf [wholeWord ["if", "else", "while", "for", "loop", "match"], lit "&&", lit "||",
      lit "=>"]
  | kotlin => anyOf [wholeWord ["if", "else", "while", "for", "when", "catch"], lit "&&", lit "||"]
  | _ => braceDecisions

/-- The number of decisions in a text. -/
def decisionCount (l : Language) (text : List Char) : Nat :=
  l.decisions.count text

/-- A keyword and the name after it. -/
def named (keywords : List String) : Pattern :=
  boundary ++ oneOfTexts keywords ++ gap ++ word

/-- A parenthesised list that does not nest. -/
def parameterList : Pattern :=
  lit "(" ++ many (.noneOf ")") ++ lit ")"

/-- The declaration of a function in a script. -/
def scriptFunctions : Pattern :=
  anyOf [named ["function"],
    boundary ++ oneOfTexts ["const", "let", "var"] ++ gap ++ word ++ blanks ++ lit "=" ++ blanks ++
      maybe (lit "async" ++ blanks) ++ parameterList ++ blanks ++ lit "=>",
    boundary ++ word ++ blanks ++ lit ":" ++ blanks ++ lit "function" ++ boundary]

/-- A method after one of its modifiers: a type, a name and a parameter list. -/
def modifiedMethod (modifiers : List String) : Pattern :=
  boundary ++ oneOfTexts modifiers ++ gap ++ maybe (lit "static" ++ gap) ++
    atLeastOne (.wordOr "<>[]") ++ gap ++ word ++ blanks ++ parameterList

/-- The function declarations of a language. -/
def functions? : Language → Option Pattern
  | javascript | typescript => some scriptFunctions
  | python => some (named ["def"] ++ blanks ++ lit "(")
  | java => some (modifiedMethod ["public", "private", "protected", "static"] ++ blanks ++
      lit "\x7b")
  | cpp => some (lineStart ++ blanks ++ atLeastOne (.wordOr ":<>*&") ++ gap ++
      atLeastOne (.wordOr ":") ++ blanks ++ lit "(" ++ many (.noneOf ";)") ++ lit ")" ++ blanks ++
      maybe (lit "const" ++ blanks) ++ lit "\x7b")
  | csharp => some (modifiedMethod ["public", "private", "protected", "internal", "static"])
  | php => some (named ["function"] ++ blanks ++ lit "(")
  | ruby => some (lineStart ++ blanks ++ lit "def" ++ gap ++ atLeastOne (.wordOr ".?!"))
  | go => some (lineStart ++ lit "func" ++ gap)
  | rust => some (named ["fn"])
  | swift => some (named ["func"])
  | kotlin => some (named ["fun"])

/-- The class declarations of a language. -/
def classes? : Language → Option Pattern
  | cpp => some (named ["class", "struct"] ++ blanks ++ one (.oneOf ":\x7b"))
  | go => some (named ["type"] ++ gap ++ lit "struct" ++ boundary)
  | rust => some (named ["struct", "enum"])
  | swift => some (named ["class", "struct"])
  | _ => some (named ["class"])

/-- The first group of a pattern. -/
def name₁ (p : Pattern) : Pattern :=
  capture 1 p

/-- The second group of a pattern. -/
def name₂ (p : Pattern) : Pattern :=
  capture 2 p

/-- The import of a module by its quoted name. -/
def scriptImports : Pattern :=
  lit "import" ++ gap ++ run .inLine 0 false ++ gap ++ lit "from" ++ gap ++
    one (.oneOf "'\x22`") ++ name₁ (atLeastOne (.noneOf "'\x22`")) ++ one (.oneOf "'\x22`")

/-- The imports of a language. -/
def imports? : Language → Option Pattern
  | javascript | typescript => some scriptImports
  | python => some (lineStart ++ blanks ++
      either (lit "from" ++ gap ++ name₁ (atLeastOne (.compl .blank)) ++ gap ++ lit "import")
        (lit "import" ++ gap ++ name₂ (atLeastOne (.compl .blank))))
  | java => some (lineStart ++ blanks ++ lit "import" ++ gap ++ maybe (lit "static" ++ gap) ++
      name₁ (atLeastOne (.noneOf ";")) ++ lit ";")
  | cpp => some (lit "#include" ++ blanks ++ one (.oneOf "<\x22") ++
      name₁ (atLeastOne (.noneOf ">\x22")) ++ one (.oneOf ">\x22"))
  | csharp => some (lineStart ++ blanks ++ lit "using" ++ gap ++
      name₁ (atLeastOne (.wordOr ".")) ++ blanks ++ lit ";")
  | php => some (lineStart ++ blanks ++ lit "use" ++ gap ++ name₁ (atLeastOne (.wordOr "\\")))
  | ruby => some (lineStart ++ blanks ++ lit "require" ++ maybe (lit "_relative") ++ gap ++
      one (.oneOf "'\x22") ++ name₁ (atLeastOne (.noneOf "'\x22")) ++ one (.oneOf "'\x22"))
  | go => some (lineStart ++ blanks ++ lit "import" ++ gap ++ lit "\x22" ++
      name₁ (atLeastOne (.noneOf "\x22")) ++ lit "\x22")
  | rust => some (lineStart ++ blanks ++ lit "use" ++ gap ++ name₁ (atLeastOne (.wordOr ":")))
  | swift | kotlin => none

/-- An exported name of a script, after an optional keyword. -/
def scriptExports (keywords : List String) : Pattern :=
  lit "export" ++ gap ++ maybe (lit "default" ++ gap) ++ maybe (oneOfTexts keywords) ++ blanks ++
    name₁ word

/-- A public type or function and its name. -/
def exported (modifier : String) (keywords : List String) : Pattern :=
  lit modifier ++ gap ++ oneOfTexts keywords ++ gap ++ name₁ word

/-- The capital letters of ASCII. -/
def capitals : CharClass :=
  .oneOf "ABCDEFGHIJKLMNOPQRSTUVWXYZ"

/-- The exports of a language. -/
def exports? : Language → Option Pattern
  | javascript => some (scriptExports ["class", "function", "const", "let", "var"])
  | typescript =>
    some (scriptExports ["class", "function", "const", "let", "var", "interface", "type"])
  | python => some (either (lineStart ++ lit "def" ++ gap ++ name₁ word)
      (lineStart ++ lit "class" ++ gap ++ name₂ word))
  | java => some (exported "public" ["class", "interface"])
  | cpp => some (lineStart ++ oneOfTexts ["class", "struct"] ++ gap ++ name₁ word)
  | csharp => some (exported "public" ["class", "interface", "struct"])
  | go => some (lineStart ++ lit "func" ++ gap ++ maybe (parameterList ++ blanks) ++
      name₁ (one capitals ++ many .word))
  | rust => some (boundary ++ exported "pub" ["fn", "struct", "enum", "trait"])
  | php | ruby | swift | kotlin => none

/-- The name that a match declares: its first group that is not empty, or else all of it. -/
def nameOf (m : Match) : List Char :=
  let groups := [m.group? 1, m.group? 2].filterMap id
  Text.strip ((groups.find? fun g => !g.isEmpty).getD m.text)

/-- The names that a pattern finds in a text. -/
def namesIn (p : Option Pattern) (text : List Char) : List String :=
  match p with
  | some p => (p.allMatches text).map fun m => String.ofList (nameOf m)
  | none => []

/-- How often a pattern occurs in a text. -/
def countIn (p : Option Pattern) (text : List Char) : Nat :=
  match p with
  | some p => p.count text
  | none => 0

end Assay.Language
