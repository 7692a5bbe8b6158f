import Assay.Text.Quoted
import Assay.Text.Similar

/-!
# Arguments of a command

Words that start with a dash are options, by a long name after two dashes or by letters after one;
the others are arguments. A value follows its option, or is joined to it. Two dashes alone end the
options.

* `OptionSpec`: an option that a command knows;
* `Given.read`: the options and arguments among some words;
* `UsageFault`: what is wrong with some words.
-/

namespace Assay.CommandLine

/-- What is wrong with the words of a command line. -/
inductive UsageFault where
  | unknownOption (name : String) (similar : List String)
  | unknownCommand (name : String) (similar : List String)
  | missingValue (option : String)
  | unwantedValue (option : String)
  | missingCommand
  | missingArgument (name : String)
  /-- A value that is not among those an option can have. -/
  | notAmong (names : List String) (value : String) (choices : List String)
  | extraArguments (words : List String)
  deriving DecidableEq, Repr

namespace UsageFault

/-- Some texts between quotes, with something between them. -/
def listed (separator : String) (texts : List String) : String :=
  separator.intercalate (texts.map Text.quoted)

/-- What is offered for a name that is not known. -/
def offer (kind : String) : List String → String
  | [] => ""
  | [w] => s!" Did you mean {Text.quoted w}?"
  | ws => s!" (Possible {kind}: " ++ listed ", " ws ++ ")"

def message : UsageFault → String
  | unknownOption name similar => s!"No such option {Text.quoted name}." ++ offer "options" similar
  | unknownCommand name similar =>
    s!"No such command {Text.quoted name}." ++ offer "commands" similar
  | missingValue option => s!"Option {Text.quoted option} requires an argument."
  | unwantedValue option => s!"Option {Text.quoted option} does not take a value."
  | missingCommand => "Missing command."
  | missingArgument name => s!"Missing argument {Text.quoted name}."
  | notAmong names value choices =>
    s!"Invalid value for " ++ listed " / " names ++ s!": {Text.quoted value} is not one of " ++
      listed ", " choices ++ "."
  | extraArguments words =>
    "Got unexpected extra argument" ++ (if words.length = 1 then " (" else "s (") ++
      " ".intercalate words ++ ")"

/-- Whether the fault is told along with the usage of the command. -/
def showsUsage : UsageFault → Bool
  | missingValue _ | unwantedValue _ => false
  | _ => true

end UsageFault

/-- An option that a command knows: its long name, the letter that stands for it, and whether a
value belongs to it. -/
structure OptionSpec where
  name : String
  letter : Option Char := none
  takesValue : Bool := false
  deriving DecidableEq, Repr

/-- The options of some words with their values, in their order, and the arguments. -/
structure Given where
  options : List (String × String) := []
  arguments : List String := []
  deriving DecidableEq, Repr

namespace Given

def addOptions (g : Given) (found : List (String × String)) : Given :=
  { g with options := found ++ g.options }

def addArgument (g : Given) (word : String) : Given :=
  { g with arguments := word :: g.arguments }

/-- The options of one word. The value of the last may be in the next word; it is `pending` then,
by its name and as it was written. -/
structure Word where
  found : List (String × String)
  pending : Option (String × String) := none

/-- Reads a long name, with its value if that is joined to it. -/
def readLong (specs : List OptionSpec) (name : String) (value : Option String) :
    Except UsageFault Word :=
  match specs.find? fun s => s.name == name with
  | none => .error (.unknownOption name (Text.closest name (specs.map (·.name))))
  | some s =>
    match s.takesValue, value with
    | true, some v => .ok { found := [(s.name, v)] }
    | true, none => .ok { found := [], pending := some (s.name, name) }
    | false, some _ => .error (.unwantedValue name)
    | false, none => .ok { found := [(s.name, "")] }

/-- Reads letters; what follows a letter whose option has a value is that value. -/
def readLetters (specs : List OptionSpec) : List Char → Except UsageFault Word
  | [] => .ok { found := [] }
  | c :: rest =>
    match specs.find? fun s => s.letter == some c with
    | none => .error (.unknownOption (String.ofList ['-', c]) [])
    | some s =>
      if s.takesValue then
        if rest.isEmpty then
          .ok { found := [], pending := some (s.name, String.ofList ['-', c]) }
        else .ok { found := [(s.name, String.ofList rest)] }
      else do
        let w ← readLetters specs rest
        return { w with found := (s.name, "") :: w.found }

/-- Reads a word that starts with a dash. -/
def readWord (specs : List OptionSpec) (word : List Char) : Except UsageFault Word :=
  match word with
  | '-' :: '-' :: _ =>
    let name := String.ofList (word.takeWhile (· != '='))
    match word.dropWhile (· != '=') with
    | [] => readLong specs name none
    | _ :: value => readLong specs name (some (String.ofList value))
  | _ => readLetters specs (word.drop 1)

/-- Whether a word is an option; a dash alone is none. -/
def isOption (word : String) : Bool :=
  match word.toList with
  | '-' :: _ :: _ => true
  | _ => false

/-- The options and arguments among some words. If options may not be `mixed` with arguments, the
first argument ends them. -/
def read (specs : List OptionSpec) (mixed : Bool) : List String → Except UsageFault Given
  | [] => .ok {}
  | word :: rest =>
    if word == "--" then .ok { arguments := rest }
    else if isOption word then
      match readWord specs word.toList with
      | .error f => .error f
      | .ok w =>
        match w.pending, rest with
        | none, rest => (read specs mixed rest).map fun g => g.addOptions w.found
        | some (name, _), value :: rest =>
          (read specs mixed rest).map fun g => g.addOptions (w.found ++ [(name, value)])
        | some (_, written), [] => .error (.missingValue written)
    else if mixed then (read specs mixed rest).map fun g => g.addArgument word
    else .ok { arguments := word :: rest }

/-- Whether an option is there. -/
def has (g : Given) (name : String) : Bool :=
  g.options.any fun (n, _) => n == name

/-- The last value of an option. -/
def value? (g : Given) (name : String) : Option String :=
  g.options.reverse.lookup name

/-- The first of some options that is there. -/
def first? (g : Given) (names : List String) : Option String :=
  (g.options.find? fun (n, _) => names.contains n).map (·.1)

end Given

end Assay.CommandLine
