import Assay.Pipeline
import Assay.Repository.Fetch
import Assay.Tree.Gather
import Assay.Tree.Settings
import Assay.Vendor.Client

/-!
# Analysing a target

A target is a path of the tree at hand, or else a repository if it names one. Everything outside
that an analysis can see is its `Workplace`.

* `Workplace.load`: the files of a target;
* `Workplace.provider`: the model to ask, if there is one;
* `Workplace.analyze`: the report about a target.
-/

namespace Assay

/-- Where an analysis takes place. -/
structure Workplace where
  tree : FileTree
  connection : Web.Connection
  clock : Clock
  environment : Environment
  /-- What the model of a client replies to a call, counted from zero. -/
  replies : Client → Nat → Reply
  /-- A model to ask in place of all others. -/
  standIn : Option Provider

/-- A provider after some calls. -/
def Provider.after (p : Provider) (calls : Nat) : Provider :=
  { p with reply := fun n => p.reply (calls + n) }

/-- The report about a target, and what it was made from. -/
structure Findings where
  report : Report
  source : SourceSet
  provider : Option Provider

namespace Workplace

/-- The workplace after the model has been called some times. -/
def after (w : Workplace) (calls : Nat) : Workplace :=
  { w with
    standIn := w.standIn.map fun p : Provider => p.after calls
    replies := fun c n => w.replies c (calls + n) }

/-- The settings of the tree. -/
def configuration (w : Workplace) : Except Failure Configuration :=
  w.tree.configuration FileTree.settingsPath

/-- The files of a target: what is at its path counts first. -/
def load (w : Workplace) (c : Configuration) (target : String) : Trail SourceSet :=
  if w.tree.hasPath target || !(isAddress target || looksLikeName target) then
    w.tree.gather c target
  else RepositoryName.fetch w.connection c target

/-- The model of a client. -/
def ofClient (w : Workplace) (c : Client) : Provider :=
  { name := c.vendor.name, model := c.model.plain, reply := w.replies c }

/-- The model that a configuration asks for. -/
def provider (w : Workplace) (c : Configuration) : Trail (Option Provider) :=
  match w.standIn with
  | some p => pure (some p)
  | none => do
    return (← Client.choose w.environment c.provider c.model).map w.ofClient

/-- What an analysis of some files is given. -/
def analysisOf (w : Workplace) (units : List SourceUnit) (provider : Option Provider)
    (cancelled : Bool) : Analysis :=
  { clock := w.clock, provider, cancelled, rounds := Parallel.inOrder units.length }

/-- Analyses a target, which must have files of a known language. -/
def analyze (w : Workplace) (c : Configuration) (target : String) (useModel cancelled : Bool) :
    Trail Findings := do
  let source ← w.load c target
  if source.units.isEmpty then .fail .emptyInput
  else
    let provider ← if useModel then w.provider c else pure none
    let report ← (w.analysisOf source.units provider cancelled).run source.units source.otherPaths
    return { report, source, provider }

end Workplace

end Assay
