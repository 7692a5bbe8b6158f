import Assay.Conversation.Store
import Assay.Rendering.Console
import Assay.Workplace

/-!
# Tools for assistants

An assistant analyses targets and asks questions about the reports. What goes wrong with a target is
told in words; so is a session that is not there.

* `ToolCall`: what an assistant may ask for;
* `Desk`: the sessions, and how often the model was called;
* `Desk.serve`: one call: its text, and the desk after it.
-/

namespace Assay

/-- What an assistant may ask for. -/
inductive ToolCall where
  | analyze (path : String) (useModel : Bool)
  | ask (id question : String)
  | suggestions (id : String)
  | history (id : String)
  | delete (id : String)
  deriving DecidableEq, Repr

/-- The state between calls. -/
structure Desk where
  store : Store
  /-- How often the model was called. -/
  calls : Nat := 0

namespace Desk

/-- The text of a call, and the desk after it. -/
structure Served where
  text : Except Failure (Option String)
  desk : Desk

/-- The desk of a workplace, with room for as many sessions as its settings say. -/
def ofSettings (w : Workplace) : Except Failure Desk := do
  let c ← w.configuration
  return { store :=
    { maxSessions := Configuration.mostSessions c.maxSessions
      evictCount := Configuration.leastSessions c.evictCount
      uncountable :=
        match c.evictCount with
        | .real _ => some c.evictCount.kindName
        | _ => none } }

/-- How many issues are shown at once. -/
def shownIssues : Nat := 10

def notFound (id : String) : String :=
  s!"Session not found: {id}. Run analyze_path first."

/-- The text about a new report. -/
def reportText (r : Report) (id : String) : Except Failure String := do
  let summary ← r.summaryText
  return Text.join "\n" (
    [summary, ""] ++ (r.issues.take shownIssues).map Issue.headline ++ ["", s!"Session ID: {id}"])

/-- The lines about a turn. -/
def turnLines (n : Nat) (t : Turn) : List String :=
  [s!"Q{n}: {t.question}", s!"A{n}: " ++ t.answer.getD "None", ""]

/-- Some lines with their numbers, counted from one. -/
def numbered (lines : List String) : List String :=
  lines.zipIdx.map fun (line, i) => s!"{i + 1}. {line}"

/-- The text about the turns of a session. -/
def historyText (turns : List Turn) : String :=
  if turns.isEmpty then "No conversation history yet."
  else Text.join "\n" (turns.zipIdx.flatMap fun (t, i) => turnLines (i + 1) t)

/-- Keeps the report about a target in a new session, which stays even if the excess cannot go. -/
def keep (w : Workplace) (d : Desk) (c : Configuration) (f : Findings) : Served :=
  match (w.provider c).outcome with
  | .error e => ⟨.error e, d⟩
  | .ok provider =>
    let (id, begun) := d.store.begin f.report f.source.units provider.isSome none
    match begun.settle.outcome with
    | .error e => ⟨.error e, { d with store := begun }⟩
    | .ok store => ⟨(reportText f.report id).map some, { d with store }⟩

/-- What is said about a target that could not be analysed, if it is for the assistant to know. -/
def excuse? (path : String) : Failure → Option String
  | .emptyInput => some s!"No supported code files found in {path}"
  | e => if e.isFetch || e.isInput then some s!"Analysis failed: {e.message}" else none

/-- Analyses a target. -/
def analyze (w : Workplace) (d : Desk) (path : String) (useModel : Bool) : Served :=
  match w.configuration with
  | .error e => ⟨.error e, d⟩
  | .ok c =>
    let found := (w.after d.calls).analyze c path useModel false
    let d := { d with calls := d.calls + found.prompts.length }
    match found.outcome with
    | .error e =>
      match excuse? path e with
      | some text => ⟨.ok (some text), d⟩
      | none => ⟨.error e, d⟩
    | .ok f => keep w d c f

/-- What the model says to the next call. -/
def nextReply (w : Workplace) (d : Desk) : Reply :=
  match w.configuration with
  | .error _ => .nothing
  | .ok c =>
    match (w.provider c).outcome with
    | .ok (some p) => p.reply d.calls
    | _ => .nothing

/-- Asks a session. -/
def ask (w : Workplace) (d : Desk) (id question : String) : Served :=
  match d.store.get id with
  | .error _ => ⟨.ok (some (notFound id)), d⟩
  | .ok _ =>
    let asked := d.store.ask id question fun _ => nextReply w d
    let d := { d with calls := d.calls + asked.prompts.length }
    match asked.outcome with
    | .ok (answer, store) => ⟨.ok answer, { d with store }⟩
    | .error e => ⟨.error e, d⟩

/-- What is said about a session that must be there. -/
def about (d : Desk) (id : String) (say : Session → String) : Served :=
  match d.store.get id with
  | .error _ => ⟨.ok (some (notFound id)), d⟩
  | .ok s => ⟨.ok (some (say s)), d⟩

/-- Ends a session. -/
def delete (d : Desk) (id : String) : Served :=
  match d.store.delete id with
  | .error _ => ⟨.ok (some (notFound id)), d⟩
  | .ok store => ⟨.ok (some s!"Session {id} deleted."), { d with store }⟩

/-- Answers a call. -/
def serve (w : Workplace) (d : Desk) : ToolCall → Served
  | .analyze path useModel => d.analyze w path useModel
  | .ask id question => d.ask w id question
  | .suggestions id => d.about id fun s => Text.join "\n" (numbered s.suggestions)
  | .history id => d.about id fun s => historyText s.history
  | .delete id => d.delete id

end Desk

end Assay
