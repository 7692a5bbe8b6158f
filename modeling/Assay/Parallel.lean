import Assay.Trail

/-!
# Calls that run at once

Several calls run at once and end in any order. `Parallel.collect` puts their results back into the
order of the items: what it sees are rounds, and in every round some calls end.

* `Round`: what is seen at one time;
* `collect`: the results in the order of the items, or the failure seen first;
* `inOrder`: the rounds in which the calls end one by one.
-/

namespace Assay.Parallel

/-- What is seen at one time. -/
inductive Round where
  /-- The calls of some indices have ended. -/
  | ended (indices : List Nat)
  /-- The run is called off. -/
  | calledOff
  deriving DecidableEq, Repr

variable {α β : Type}

/-- Puts the results of the calls that ended into their places. -/
def place (f : α → Except Failure β) (items : List α) :
    List Nat → List (Option β) → Except Failure (List (Option β))
  | [], slots => .ok slots
  | i :: rest, slots =>
    match items[i]? with
    | none => place f items rest slots
    | some a =>
      match f a with
      | .ok b => place f items rest (slots.set i (some b))
      | .error e => .error e

/-- The places after some rounds. -/
def settle (f : α → Except Failure β) (items : List α) :
    List Round → List (Option β) → Except Failure (List (Option β))
  | [], slots => .ok slots
  | .calledOff :: _, _ => .error .cancelled
  | .ended indices :: rest, slots =>
    match place f items indices slots with
    | .ok slots => settle f items rest slots
    | .error e => .error e

/-- The results of `f` on some items, in their order, whatever the rounds in which the calls end. -/
def collect (f : α → Except Failure β) (items : List α) (rounds : List Round) :
    Except Failure (List (Option β)) :=
  if items.isEmpty then .ok [] else settle f items rounds (List.replicate items.length none)

/-- The rounds of `n` calls that end one by one. -/
def inOrder (n : Nat) : List Round :=
  (List.range n).map fun i => .ended [i]

/-- The number of calls that may run at once: at least one. -/
def workers (wanted : Int) : Int :=
  max 1 wanted

end Assay.Parallel
