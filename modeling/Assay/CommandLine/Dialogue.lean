import Assay.Conversation.Session
import Assay.Text.Lower
import Assay.Trail

/-!
# Dialogues on the console

A dialogue reads lines until one of them ends it, or until there are no more. Some words are
commands, in capitals too; an empty line is asked for again.

* `Dialogue.converse`: the whole dialogue;
* `Dialogue.ask`: one question.
-/

namespace Assay.CommandLine

/-- A session, and the model that it asks. -/
structure Dialogue where
  session : Session
  provider : Option Provider

namespace Dialogue

/-- A line on the console. -/
def say (line : String) : Trail Unit :=
  .emit (.print (line ++ "\n"))

/-- Several lines on the console. -/
def sayAll (lines : List String) : Trail Unit := do
  let _ ← Trail.each say lines

/-- Asks a question. -/
def ask (d : Dialogue) (question : String) : Trail (Option String × Dialogue) := do
  let reply :=
    match d.provider with
    | some p => p.reply d.session.calls
    | none => .nothing
  let (answer, session) ← d.session.ask question reply
  return (answer, { d with session })

/-- Shows what one might ask. -/
def showSuggestions (d : Dialogue) : Trail Unit := do
  say "\n💡 Suggested questions:"
  sayAll (d.session.suggestions.zipIdx.map fun (q, i) => s!"  {i + 1}. {q}")
  say ""

/-- How much of an answer the history shows. -/
def previewLength : Nat := 150

/-- Shows a turn, which must have an answer. -/
def showTurn (n : Nat) (t : Turn) : Trail Unit :=
  match t.answer with
  | none => .fail (.wrongType (.noLength "NoneType"))
  | some answer => do
    say s!"\nQ{n}: {t.question}"
    say s!"A{n}: {Text.clip answer previewLength}"

/-- Shows some turns, the next of which is the `n`-th. -/
def showTurns (n : Nat) : List Turn → Trail Unit
  | [] => pure ()
  | t :: rest => do
    showTurn n t
    showTurns (n + 1) rest

/-- Shows the turns so far. -/
def showHistory (d : Dialogue) : Trail Unit :=
  if d.session.history.isEmpty then say "\n📝 No conversation history yet"
  else do
    say "\n📝 Conversation history:"
    showTurns 1 d.session.history
    say ""

/-- What a line asks for. -/
inductive Wish where
  | nothing
  | leave
  | suggestions
  | history
  | clear
  | question (text : String)
  deriving DecidableEq, Repr

/-- What a line asks for: the words of commands count in either case. -/
def Wish.ofLine (line : String) : Wish :=
  let text := Text.trimmed line
  let word := String.ofList (Text.lower text.toList)
  if word.isEmpty then nothing
  else if word == "exit" || word == "quit" then leave
  else if word == "help" || word == "suggestions" then suggestions
  else if word == "history" then history
  else if word == "clear" then clear
  else question text

/-- Grants a wish; nothing comes back where the dialogue is over. -/
def grant (d : Dialogue) : Wish → Trail (Option Dialogue)
  | .nothing => pure (some d)
  | .leave => do
    say "\n👋 Goodbye!"
    return none
  | .suggestions => do
    d.showSuggestions
    return some d
  | .history => do
    d.showHistory
    return some d
  | .clear => do
    say "✅ Conversation history cleared"
    return some { d with session := d.session.clear }
  | .question text => do
    say "\n🤔 Thinking..."
    let (answer, d) ← d.ask text
    say ("\n🤖 Answer:\n" ++ answer.getD "None" ++ "\n")
    return some d

/-- What stands before a line that is typed. -/
def promptText : String := "Your question> "

/-- Goes through the lines that are typed. -/
def goOn (d : Dialogue) : List String → Trail Unit
  | [] => do
    .emit (.print promptText)
    say "\n👋 Session ended"
  | line :: rest => do
    say (promptText ++ line)
    match ← d.grant (.ofLine line) with
    | some d => goOn d rest
    | none => return ()

/-- The lines of what is typed; a line break ends a line. -/
def linesOf (typed : String) : List String :=
  let lines := (Text.lines (Text.unifyNewlines typed.toList)).map String.ofList
  if lines.getLast? == some "" then lines.dropLast else lines

/-- A dialogue over the lines that are typed. -/
def converse (d : Dialogue) (lines : List String) : Trail Unit := do
  say "\n🤖 Interactive Q&A Session"
  say "Ask questions about your codebase. Type 'exit' to quit, 'help' for suggestions."
  say (String.ofList (List.replicate 60 '='))
  goOn d lines

end Dialogue

end Assay.CommandLine
