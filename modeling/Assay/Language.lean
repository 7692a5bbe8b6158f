import Assay.Failure
import Assay.Path

/-!
# Languages

The languages that can be analysed, and how a path tells its language by its extension.

* `Language.ofPath?`: the language of a path, if its extension has one;
* `Language.requireAll`: a table over languages must have an entry for each of them.
-/

namespace Assay

/-- A supported programming language. -/
inductive Language where
  | javascript | typescript | python | java | cpp | csharp | php | ruby | go | rust | swift | kotlin
  deriving DecidableEq, Repr

namespace Language

/-- Every language, in the order in which messages list them. -/
def all : List Language :=
  [javascript, typescript, python, java, cpp, csharp, php, ruby, go, rust, swift, kotlin]

/-- The name of a language in reports. -/
def name : Language → String
  | javascript => "javascript"
  | typescript => "typescript"
  | python => "python"
  | java => "java"
  | cpp => "cpp"
  | csharp => "csharp"
  | php => "php"
  | ruby => "ruby"
  | go => "go"
  | rust => "rust"
  | swift => "swift"
  | kotlin => "kotlin"

/-- The language of a name. -/
def ofName? (s : String) : Option Language :=
  all.find? fun l => l.name == s

/-- The extensions of each language. -/
def extensions : List (String × Language) :=
  [(".js", javascript), (".jsx", javascript), (".ts", typescript), (".tsx", typescript),
   (".py", python), (".java", java), (".c", cpp), (".cc", cpp), (".cpp", cpp), (".h", cpp),
   (".hpp", cpp), (".cs", csharp), (".php", php), (".rb", ruby), (".go", go), (".rs", rust),
   (".swift", swift), (".kt", kotlin)]

/-- The language of a path, told by its extension in either case. -/
def ofPath? (path : String) : Option Language :=
  extensions.lookup (String.ofList (Text.lower (Path.suffix (Path.slashed path))))

/-- The language of a path, or the failure of a file that has none. -/
def ofPath (path : String) : Except Failure Language :=
  match ofPath? path with
  | some l => .ok l
  | none => .error (.unsupportedFile path)

/-- The language that a value names. -/
def ofJson (j : Json) : Except Failure Language :=
  match j.asString?.bind ofName? with
  | some l => .ok l
  | none => .error (.notMember j.shown "Language")

/-- A table with entries for the languages `present` is complete, or its gaps are named. -/
def requireAll (present : List Language) (table : String) : Except Failure Unit :=
  match all.filter fun l => !present.contains l with
  | [] => .ok ()
  | gaps => .error (.missingEntries table (gaps.map name))

end Language

end Assay
