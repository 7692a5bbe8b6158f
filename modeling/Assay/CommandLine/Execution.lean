import Assay.CommandLine.Dialogue
import Assay.CommandLine.Usage
import Assay.Rendering.Console
import Assay.Workplace

/-!
# Executing a command line

* `Invocation`: what a command line asks for; `Invocation.read` reads it;
* `Invocation.run`: what it does, and the code that it ends with;
* `execute`: what a user sees of it.
-/

namespace Assay.CommandLine

/-- What the command that analyses is asked for. -/
structure AnalyzeOptions where
  target : String
  format : String
  output : String
  useModel : Bool
  question : String
  interactive : Bool
  deriving DecidableEq, Repr

/-- What a command line asks for. -/
inductive Invocation where
  | version
  | help (p : Page)
  /-- The command line is empty, which is answered with the help. -/
  | nothing
  | faulty (p : Page) (f : UsageFault)
  | languages
  | toolServer
  | analyze (settings : Option String) (verbose : Bool) (o : AnalyzeOptions)
  deriving DecidableEq, Repr

namespace Invocation

/-- The invocation that an option stands for whatever else is there. -/
def ofEager? (p : Page) (g : Given) : Option Invocation :=
  match g.first? ["--version", "--help"] with
  | some "--version" => some version
  | some _ => some (help p)
  | none => none

/-- The words of the command that analyses. -/
def readAnalyze (top : Given) (words : List String) : Invocation :=
  match Given.read Page.analyze.specs true words with
  | .error f => faulty .analyze f
  | .ok g =>
    match ofEager? .analyze g with
    | some i => i
    | none =>
      let format := (g.value? "--format").getD "console"
      if !Page.formats.contains format then
        faulty .analyze (.notAmong ["--format", "-F"] format Page.formats)
      else
        match g.arguments with
        | [] => faulty .analyze (.missingArgument "TARGET")
        | [target] =>
          .analyze (top.value? "--config") (top.has "--verbose")
            { target, format, output := (g.value? "--output").getD ""
              useModel := !g.has "--no-ai", question := (g.value? "--question").getD ""
              interactive := g.has "--interactive" }
        | _ :: extra => faulty .analyze (.extraArguments extra)

/-- The words of a command without arguments. -/
def readPlain (p : Page) (i : Invocation) (words : List String) : Invocation :=
  match Given.read p.specs true words with
  | .error f => faulty p f
  | .ok g =>
    match ofEager? p g with
    | some i => i
    | none => if g.arguments.isEmpty then i else faulty p (.extraArguments g.arguments)

/-- The words from the one where a command should stand. -/
def readCommand (top : Given) (word : String) (rest : List String) : Invocation :=
  match Page.ofCommand? word with
  | some .analyze => readAnalyze top rest
  | some .languages => readPlain .languages .languages rest
  | some p => readPlain p .toolServer rest
  | none =>
    let unknown := faulty .top (.unknownCommand word
      (Text.closest word (Page.commands.map Page.command)))
    if word.toList.head? == some '-' then
      match Given.read Page.top.specs false (word :: rest) with
      | .error f => faulty .top f
      | .ok g => (ofEager? .top g).getD unknown
    else unknown

/-- Reads a command line. -/
def read (words : List String) : Invocation :=
  if words.isEmpty then nothing
  else
    match Given.read Page.top.specs false words with
    | .error f => faulty .top f
    | .ok g =>
      match ofEager? .top g, g.arguments with
      | some i, _ => i
      | none, [] => faulty .top .missingCommand
      | none, word :: rest => readCommand g word rest

/-- Whether every log entry is shown. -/
def isVerbose : Invocation → Bool
  | analyze _ verbose _ => verbose
  | _ => false

end Invocation

/-- A line on the error console. -/
def complain (line : String) : Trail Unit :=
  .emit (.complain (line ++ "\n"))

/-- The lines about file extensions, in the order of the alphabet. -/
def languageLines : List String :=
  let width : Nat := 8
  let rows := Language.extensions.mergeSort fun a b => !decide (b.1 < a.1)
  rows.map fun (e, l) =>
    "  " ++ e ++ String.ofList (List.replicate (width - e.length) ' ') ++ " " ++ l.name

/-- Writes a file of a report. -/
def save (t : FileTree) (path text : String) : Trail Unit :=
  match t.entry path with
  | .ok .directory => .fail (.system .isDirectory path)
  | _ => .emit (.write (Path.shortest path) text)

/-- Writes some files of a report. -/
def saveAll (t : FileTree) : List (String × String) → Trail Unit
  | [] => pure ()
  | (path, text) :: rest => do
    save t path text
    saveAll t rest

/-- The directory for reports: the one that is named, or else that of the settings. -/
def reportsDirectory (c : Configuration) (output : String) : Except Failure String :=
  if output.isEmpty then
    match c.reportsDir with
    | .str dir => .ok dir
    | v => .error (.wrongType (.notPath v.kindName))
  else .ok output

/-- Exports a report. -/
def export_ (w : Workplace) (c : Configuration) (o : AnalyzeOptions) (r : Report) : Trail Unit := do
  let formats ← .ofExcept (ExportFormat.select o.format)
  let dir ← .ofExcept (reportsDirectory c o.output)
  .ofExcept (w.tree.canHold dir)
  let files := r.exports dir w.clock.exportName formats
  saveAll w.tree files
  Dialogue.sayAll (files.map fun (path, _) => s!"Report saved: {path}")

/-- Shows a report, on the console or in files. -/
def present (w : Workplace) (c : Configuration) (o : AnalyzeOptions) (r : Report) : Trail Unit := do
  if o.format == "console" then Dialogue.sayAll (← .ofExcept r.consoleLines)
  else export_ w c o r

/-- Answers the questions about a report; the model was called `calls` times before. -/
def discuss (w : Workplace) (c : Configuration) (o : AnalyzeOptions) (input : List String)
    (f : Findings) (calls : Nat) : Trail Unit := do
  let provider ← match f.provider with
    | some p => pure (some p)
    | none => w.provider c
  let d : Dialogue :=
    { session :=
        { id := generatedId 1, report := f.report, units := f.source.units
          hasModel := provider.isSome }
      provider := provider.map fun p => p.after calls }
  let d ← if o.question.isEmpty then pure d
    else do
      Dialogue.say s!"\n❓ {o.question}"
      let (answer, d) ← d.ask o.question
      Dialogue.say (answer.getD "")
      pure d
  if o.interactive then d.converse input

/-- What is said about a target that could not be analysed, if it is for the user to know. -/
def excuse? (target : String) : Failure → Option String
  | .emptyInput => some s!"No supported code files found in {target}"
  | e =>
    if e.isFetch then some s!"Failed to fetch {target}: {e.message}"
    else if e.isInput then some s!"Error: {e.message}"
    else none

/-- Analyses a target and shows what comes of it. -/
def analyzeTarget (w : Workplace) (c : Configuration) (o : AnalyzeOptions) (input : List String) :
    Trail Nat := do
  Dialogue.say s!"🔍 Analyzing {o.target}..."
  let found := w.analyze c o.target o.useModel false
  match ← found.attempt with
  | .error e =>
    match excuse? o.target e with
    | some line => do
      complain line
      return 1
    | none => .fail e
  | .ok f => do
    present w c o f.report
    if !o.question.isEmpty || o.interactive then
      discuss w c o input f found.prompts.length
    return 0

/-- What an invocation does, and the code that it ends with. -/
def Invocation.run (w : Workplace) (input : List String) : Invocation → Trail Nat
  | version => do
    Dialogue.say s!"{Page.program}, version {Sarif.toolVersion}"
    return 0
  | help p => do
    .emit (.print p.help)
    return 0
  | nothing => do
    .emit (.complain Page.top.help)
    return 2
  | faulty p f => do
    .emit (.complain (p.complaint f))
    return 2
  | languages => do
    Dialogue.sayAll languageLines
    return 0
  | toolServer => do
    complain "Tools are not served from here."
    return 1
  | analyze settings _ o => do
    match w.tree.configuration (settings.getD FileTree.settingsPath) with
    | .error e =>
      if e.isValue then do
        complain s!"Invalid configuration: {e.message}"
        return 1
      else .fail e
    | .ok c => analyzeTarget w c o input

/-- What a user sees of a command line. -/
structure Execution where
  exitCode : Nat
  output : String
  complaints : String
  /-- The files that were written, by path. -/
  files : List (String × String)
  /-- The failure that nothing answered. -/
  failure : Option Failure

/-- What an event puts on the console. -/
def printed : Event → Option String
  | .print text => some text
  | _ => none

/-- What an event puts on the error console. -/
def complained (least : Level) : Event → Option String
  | .complain text => some text
  | .log level message =>
    if least.rank ≤ level.rank then some s!"[codeqa] {level.name} {message}\n" else none
  | _ => none

/-- The file that an event writes. -/
def written : Event → Option (String × String)
  | .write path text => some (path, text)
  | _ => none

/-- Whether a command line reads what is typed. -/
def isInteractive (words : List String) : Bool :=
  match Invocation.read words with
  | .analyze _ _ o => o.interactive
  | _ => false

/-- Executes a command line while some text is typed. -/
def execute (w : Workplace) (words : List String) (typed : String) : Execution :=
  let i := Invocation.read words
  let t := i.run w (Dialogue.linesOf typed)
  let least : Level := if i.isVerbose then .debug else .warning
  { exitCode := match t.outcome with
      | .ok code => code
      | .error _ => 1
    output := String.join (t.events.filterMap printed)
    complaints := String.join (t.events.filterMap (complained least))
    files := t.events.filterMap written
    failure := match t.outcome with
      | .ok _ => none
      | .error e => some e }

end Assay.CommandLine
