import Assay.CommandLine.Arguments
import Assay.Rendering.Export

/-!
# Commands and their usage

* `Page`: a command, or all of them together;
* `Page.specs`: the options of a command;
* `Page.help`, `Page.complaint`: its help, and what is said about a fault in its words.
-/

namespace Assay.CommandLine

/-- What the help can be about. -/
inductive Page where
  | top
  | analyze
  | languages
  | toolServer
  deriving DecidableEq, Repr

namespace Page

/-- The name of the program. -/
def program : String := "main"

/-- The word for a command. -/
def command : Page → String
  | top => ""
  | analyze => "analyze"
  | languages => "languages"
  | toolServer => "mcp-server"

/-- The commands. -/
def commands : List Page :=
  [analyze, languages, toolServer]

def ofCommand? (word : String) : Option Page :=
  commands.find? fun p => p.command == word

/-- The words that lead to a page. -/
def path : Page → String
  | top => program
  | p => program ++ " " ++ p.command

/-- How the words of a command go on. -/
def pattern : Page → String
  | top => "[OPTIONS] COMMAND [ARGS]..."
  | analyze => "[OPTIONS] TARGET"
  | _ => "[OPTIONS]"

def usage (p : Page) : String :=
  s!"Usage: {p.path} {p.pattern}\n"

/-- The formats of a report, on the console or in files. -/
def formats : List String :=
  "console" :: ExportFormat.choices

/-- The options of a command. -/
def specs : Page → List OptionSpec
  | top =>
    [{ name := "--version" }, { name := "--config", letter := some 'c', takesValue := true },
     { name := "--verbose", letter := some 'v' }, { name := "--help" }]
  | analyze =>
    [{ name := "--format", letter := some 'F', takesValue := true },
     { name := "--output", letter := some 'o', takesValue := true }, { name := "--no-ai" },
     { name := "--question", letter := some 'q', takesValue := true },
     { name := "--interactive", letter := some 'i' }, { name := "--help" }]
  | _ => [{ name := "--help" }]

/-- Lines below a heading. -/
def block (lines : List String) : String :=
  String.join (lines.map (· ++ "\n"))

/-- What a command does. -/
def about : Page → String
  | top => "codeqa: code quality analysis with AI-assisted Q&A."
  | analyze => "Analyze a local PATH or a GITHUB_URL."
  | languages => "List supported file extensions."
  | toolServer => "Start the MCP server for AI coding tool integration."

/-- The lines about the options of a command. -/
def optionLines : Page → List String
  | top =>
    ["  --version          Show the version and exit.",
     "  -c, --config TEXT  Path to codeqa.yml",
     "  -v, --verbose      Enable debug logging",
     "  --help             Show this message and exit."]
  | analyze =>
    ["  -F, --format [" ++ "|".intercalate formats ++ "]",
     "                                  Output format: console (default), markdown,",
     "                                  json, sarif or all",
     "  -o, --output TEXT               Directory for exported reports",
     "  --no-ai                         Skip AI analysis (static analysis only)",
     "  -q, --question TEXT             Ask one question about the results",
     "  -i, --interactive               Start an interactive Q&A session",
     "  --help                          Show this message and exit."]
  | _ => ["  --help  Show this message and exit."]

/-- The lines about the commands. -/
def commandLines : List String :=
  commands.map fun p =>
    "  " ++ p.command ++ String.ofList (List.replicate (12 - p.command.length) ' ') ++ p.about

/-- The help of a command. -/
def help (p : Page) : String :=
  p.usage ++ "\n  " ++ p.about ++ "\n\nOptions:\n" ++ block p.optionLines ++
    (if p = top then "\nCommands:\n" ++ block commandLines else "")

/-- What is said about a fault in the words of a command. -/
def complaint (p : Page) (f : UsageFault) : String :=
  (if f.showsUsage then p.usage ++ s!"Try '{p.path} --help' for help.\n\n" else "") ++
    s!"Error: {f.message}\n"

end Page

end Assay.CommandLine
