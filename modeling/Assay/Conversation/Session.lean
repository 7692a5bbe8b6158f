import Assay.Conversation.Context
import Assay.Review.Reply
import Assay.Trail

/-!
# Sessions

A session is a conversation about one report. A question that fails is answered with an apology and
leaves no trace in the history.

* `Session.ask`: one question; the caller says what the model would reply;
* `Session.clear`: the history is forgotten;
* `sessionIdOr`: the id of a session that was given none.
-/

namespace Assay

/-- The answer to a question that failed. -/
def apology : String :=
  "I'm sorry, I encountered an error while processing your question. Please try again."

/-- A conversation about a report. -/
structure Session where
  id : String
  report : Report
  units : List SourceUnit
  /-- Whether there is a model to ask. -/
  hasModel : Bool
  /-- The turns that were answered, the earliest first. -/
  history : List Turn := []
  /-- How often the model was called. -/
  calls : Nat := 0

namespace Session

/-- The prompt of a question. -/
def promptFor (s : Session) (question : String) : Except Failure String := do
  let context ← contextOf s.report s.units s.history
  return questionPrompt context question

/-- An answered question joins the history. -/
def record (s : Session) (question : String) (answer : Option String) : Session :=
  { s with history := s.history ++ [⟨question, answer⟩] }

/-- What a reply makes of a session: the answer, and the session after it. -/
def settle (s : Session) (question : String) : Reply → Trail (Option String × Session)
  | .text answer => pure (some answer, s.record question (some answer))
  | .nothing => pure (none, s.record question none)
  | .serviceError message => do
    Trail.warn s!"Session {s.id}: question failed: {message}"
    return (some apology, s)
  | .crash _ _ => do
    Trail.log .error s!"Session {s.id}: unexpected provider failure"
    return (some apology, s)

/-- Asks a question, where `reply` is what the model says if it is asked. -/
def ask (s : Session) (question : String) (reply : Reply) : Trail (Option String × Session) :=
  if s.hasModel then do
    let prompt ← .ofExcept (s.promptFor question)
    .emit (.prompt prompt)
    settle { s with calls := s.calls + 1 } question reply
  else do
    Trail.warn s!"Session {s.id}: no AI provider configured"
    return (some apology, s)

/-- Forgets the history. -/
def clear (s : Session) : Session :=
  { s with history := [] }

/-- What one might ask. -/
def suggestions (s : Session) : List String :=
  suggestedQuestions s.report

end Session

/-- The id of the `n`-th session that was given none, counted from one. -/
def generatedId (n : Nat) : String :=
  String.ofList (Text.hexDigits 32 n)

/-- Whether an id was given; an empty one counts as none. -/
def isGivenId (given : Option String) : Bool :=
  given.any fun id => !id.isEmpty

/-- The id that was given, or the `n`-th generated one. -/
def sessionIdOr (n : Nat) (given : Option String) : String :=
  if isGivenId given then given.getD "" else generatedId n

end Assay
