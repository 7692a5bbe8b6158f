import Assay.Review.Parsing
import Assay.Review.Prompt
import Assay.Review.Reply
import Assay.Trail

/-!
# Review in batches

Every batch of files is one call to the model. A batch that cannot be reviewed has no issues and
says why; it never stops the others.

* `BatchResult`: what became of a batch;
* `reviewBatch`: one call;
* `reviewAll`: all batches of a set of files, in order, with ids that count on from one batch to
  the next.
-/

namespace Assay.Review

/-- What became of a batch. -/
inductive BatchStatus where
  | ok
  /-- There is no model to ask. -/
  | disabled
  /-- The reply holds no array. -/
  | noArray
  | parseError
  | serviceError
  /-- The run was called off before the call. -/
  | cancelled
  deriving DecidableEq, Repr

def BatchStatus.name : BatchStatus → String
  | ok => "ok"
  | disabled => "disabled"
  | noArray => "no_array"
  | parseError => "parse_error"
  | serviceError => "service_error"
  | cancelled => "cancelled"

/-- The result of one batch. -/
structure BatchResult where
  index : Int
  paths : List String
  status : BatchStatus
  issues : List Issue := []
  problem : Option String := none
  deriving DecidableEq, Repr

/-- The result of a batch whose reply was parsed. A problem without a word is passed over. -/
def BatchResult.ofOutcome (index : Int) (paths : List String) (o : ParseOutcome) :
    Trail BatchResult :=
  match o.problem.filter (· != "") with
  | some problem => do
    Trail.warn s!"Failed to parse AI response for batch {index}: {problem}"
    return { index, paths, status := .parseError, problem }
  | none =>
    if o.foundArray then pure { index, paths, status := .ok, issues := o.issues }
    else do
      Trail.warn s!"No JSON array found in AI response for batch {index}"
      return { index, paths, status := .noArray }

/-- The result of a batch that was sent, from the reply. -/
def BatchResult.ofReply (index : Int) (paths : List String) (idOf : Nat → String) (first : Nat)
    (reply : Reply) : Trail BatchResult :=
  match reply with
  | .serviceError message => do
    let names := Text.join ", " paths
    Trail.warn s!"AI analysis failed for batch {index} ({names}): {message}"
    return { index, paths, status := .serviceError, problem := message }
  | .crash kind message => do
    Trail.log .error s!"Unexpected provider failure for batch {index}"
    return { index, paths, status := .serviceError, problem := shownCrash kind message }
  | .text s => do
    BatchResult.ofOutcome index paths (← .ofExcept (ParseOutcome.ofReply paths idOf first (some s)))
  | .nothing => do
    BatchResult.ofOutcome index paths (← .ofExcept (ParseOutcome.ofReply paths idOf first none))

/-- Reviews one batch. Without a model, or once the run is called off, nothing is sent; `reply` is
what the model answers otherwise. -/
def reviewBatch (idOf : Nat → String) (cancelled : Bool) (index : Int) (batch : List SourceUnit)
    (first : Nat) (reply : Option Reply) : Trail BatchResult :=
  let paths := batch.map (·.path)
  match reply with
  | none => pure { index, paths, status := .disabled }
  | some reply =>
    if cancelled then pure { index, paths, status := .cancelled }
    else do
      .emit (.prompt (reviewPrompt batch))
      BatchResult.ofReply index paths idOf first reply

/-- Reviews the batches from the `index`-th on; the next issue takes the `first` id. -/
def reviewFrom (idOf : Nat → String) (provider : Option Provider) (index first : Nat) :
    List (List SourceUnit) → Trail (List BatchResult)
  | [] => pure []
  | batch :: rest => do
    let r ← reviewBatch idOf false index batch first (provider.map fun p => p.reply index)
    let rs ← reviewFrom idOf provider (index + 1) (first + r.issues.length) rest
    return r :: rs

/-- The id of the `n`-th issue of a run that started at a time in milliseconds. -/
def issueId (stamp : Nat) (n : Nat) : String :=
  s!"ai-{stamp}-{n}"

/-- Reviews a set of files. -/
def reviewAll (stamp : Nat) (provider : Option Provider) (cancelled : Bool)
    (units : List SourceUnit) : Trail (List BatchResult) := do
  checkCancelled cancelled
  let bs ← .ofExcept (batches batchSize units)
  if provider.isSome then
    Trail.info s!"Running AI analysis on {units.length} file(s) in {bs.length} batch(es)"
  reviewFrom (issueId stamp) provider 0 0 bs

/-- The issues that a model finds in a set of files. -/
def reviewIssues (stamp : Nat) (provider : Option Provider) (cancelled : Bool)
    (units : List SourceUnit) : Trail (List Issue) := do
  let results ← reviewAll stamp provider cancelled units
  return results.flatMap (·.issues)

end Assay.Review
