import Assay.Failure

/-!
# Trails

A `Trail` is what an operation leaves behind: a result or a failure, and the events on the way to
it. The requests and calls that an operation makes are events too; their answers come from
functions that the operation is given, so a trail is determined by its inputs.

* `Event`: what can be observed of an operation;
* `Trail`: the operation; `Trail.bind` runs one after another and stops at a failure;
* `Trail.recover`, `Trail.attempt`: going on after some failures, or after all.
-/

namespace Assay

/-- How important a log entry is. -/
inductive Level where
  | debug | info | warning | error
  deriving DecidableEq, Repr

namespace Level

def name : Level → String
  | debug => "DEBUG"
  | info => "INFO"
  | warning => "WARNING"
  | error => "ERROR"

def rank : Level → Nat
  | debug => 0
  | info => 1
  | warning => 2
  | error => 3

end Level

/-- A request to a server. -/
structure Request where
  url : String
  accept : String
  authorization : Option String
  agent : String
  deriving DecidableEq, Repr

/-- What can be observed of an operation. -/
inductive Event where
  | log (level : Level) (message : String)
  | request (r : Request)
  /-- A prompt was sent to the model. -/
  | prompt (text : String)
  /-- A text was printed on the console. -/
  | print (text : String)
  /-- A text was printed on the error console. -/
  | complain (text : String)
  /-- A file was written. -/
  | write (path text : String)
  deriving DecidableEq, Repr

/-- The result of an operation and the events on the way to it. -/
structure Trail (α : Type) where
  outcome : Except Failure α
  events : List Event

namespace Trail

variable {α β : Type}

protected def pure (a : α) : Trail α :=
  ⟨.ok a, []⟩

/-- One operation after another; nothing follows a failure. -/
protected def bind (t : Trail α) (f : α → Trail β) : Trail β :=
  match t.outcome with
  | .ok a => ⟨(f a).outcome, t.events ++ (f a).events⟩
  | .error e => ⟨.error e, t.events⟩

instance : Monad Trail where
  pure := Trail.pure
  bind := Trail.bind

@[simp]
theorem outcome_pure (a : α) : (pure a : Trail α).outcome = .ok a := rfl

@[simp]
theorem outcome_bind (t : Trail α) (f : α → Trail β) :
    (t >>= f).outcome = t.outcome >>= fun a => (f a).outcome := by
  change (Trail.bind t f).outcome = _
  unfold Trail.bind
  cases t.outcome <;> rfl

/-- An operation that fails. -/
def fail (e : Failure) : Trail α :=
  ⟨.error e, []⟩

/-- A result that is already there. -/
def ofExcept (r : Except Failure α) : Trail α :=
  ⟨r, []⟩

/-- An operation that is one event. -/
def emit (e : Event) : Trail Unit :=
  ⟨.ok (), [e]⟩

@[simp]
theorem outcome_ofExcept (r : Except Failure α) : (ofExcept r).outcome = r := rfl

@[simp]
theorem outcome_emit (e : Event) : (emit e).outcome = .ok () := rfl

def log (level : Level) (message : String) : Trail Unit :=
  emit (.log level message)

def debug (message : String) : Trail Unit :=
  log .debug message

def info (message : String) : Trail Unit :=
  log .info message

def warn (message : String) : Trail Unit :=
  log .warning message

@[simp]
theorem outcome_log (level : Level) (message : String) : (log level message).outcome = .ok () := rfl

@[simp]
theorem outcome_info (message : String) : (info message).outcome = .ok () := rfl

@[simp]
theorem outcome_debug (message : String) : (debug message).outcome = .ok () := rfl

@[simp]
theorem outcome_warn (message : String) : (warn message).outcome = .ok () := rfl

/-- Goes on after the failures for which `f` has an operation. -/
def recover (t : Trail α) (f : Failure → Option (Trail α)) : Trail α :=
  match t.outcome with
  | .ok _ => t
  | .error e =>
    match f e with
    | none => t
    | some u => ⟨u.outcome, t.events ++ u.events⟩

/-- An operation whose failure is a result. -/
def attempt (t : Trail α) : Trail (Except Failure α) :=
  ⟨.ok t.outcome, t.events⟩

/-- The log entries of a level and above. -/
def logs (t : Trail α) (least : Level) : List (Level × String) :=
  t.events.filterMap fun
    | .log level message => if least.rank ≤ level.rank then some (level, message) else none
    | _ => none

/-- The requests. -/
def requests (t : Trail α) : List Request :=
  t.events.filterMap fun
    | .request r => some r
    | _ => none

/-- The prompts. -/
def prompts (t : Trail α) : List String :=
  t.events.filterMap fun
    | .prompt p => some p
    | _ => none

@[simp]
theorem prompts_pure (a : α) : (pure a : Trail α).prompts = [] := rfl

@[simp]
theorem prompts_ofExcept (r : Except Failure α) : (ofExcept r).prompts = [] := rfl

@[simp]
theorem prompts_log (level : Level) (message : String) : (log level message).prompts = [] := rfl

@[simp]
theorem prompts_info (message : String) : (info message).prompts = [] := rfl

@[simp]
theorem prompts_warn (message : String) : (warn message).prompts = [] := rfl

theorem prompts_bind_of_ok {t : Trail α} {a : α} (h : t.outcome = .ok a) (f : α → Trail β) :
    (t >>= f).prompts = t.prompts ++ (f a).prompts := by
  change (Trail.bind t f).prompts = _
  simp only [Trail.bind, h, prompts, List.filterMap_append]

/-- What never asks the model asks it nothing when it is done after another. -/
theorem prompts_bind_silent (t : Trail α) {f : α → Trail β} (hf : ∀ a, (f a).prompts = []) :
    (t >>= f).prompts = t.prompts := by
  cases h : t.outcome with
  | ok a => rw [prompts_bind_of_ok h, hf, List.append_nil]
  | error e =>
    change (Trail.bind t f).prompts = _
    simp only [Trail.bind, h, prompts]

/-- Runs an operation on every item of a list, in order. -/
def each (f : α → Trail β) : List α → Trail (List β)
  | [] => pure []
  | a :: rest => do
    let b ← f a
    let bs ← each f rest
    return b :: bs

end Trail

/-- Fails if the operation was called off. -/
def checkCancelled (cancelled : Bool) : Trail Unit :=
  if cancelled then .fail .cancelled else pure ()

end Assay
