import Assay.Conversation.Session

/-!
# The store of sessions

A store holds sessions under different ids, the oldest first. A new session comes last, in place of
one with the same id; when there are then too many, some of the oldest others go. A limit that
cannot count, such as a fraction, shows only when it has to.

* `Store.create`: a new session;
* `Store.begin`, `Store.join`, `Store.settle`: its steps;
* `Store.get`, `Store.ask`, `Store.clear`, `Store.delete`: operations on a session that is there;
* `Store.ids`: the ids, the oldest session first.
-/

namespace Assay

/-- Sessions by age. -/
structure Store where
  /-- How many sessions may be there. -/
  maxSessions : Int
  /-- How many go when there are more. -/
  evictCount : Int
  /-- The kind of value that `evictCount` stands for, if that cannot count; it is then rounded
  up. -/
  uncountable : Option String := none
  /-- The sessions, the oldest first. -/
  sessions : List Session := []
  /-- How many ids were generated. -/
  generated : Nat := 0

namespace Store

/-- The ids, the oldest session first. -/
def ids (st : Store) : List String :=
  st.sessions.map (·.id)

def size (st : Store) : Nat :=
  st.sessions.length

def contains (st : Store) (id : String) : Bool :=
  st.sessions.any fun s => s.id == id

/-- The sessions without the one of an id. -/
def without (id : String) (sessions : List Session) : List Session :=
  sessions.filter fun s => s.id != id

/-- How many sessions must go; the newest never does. -/
def excess (st : Store) : Except Failure Nat :=
  let others : Int := st.size - 1
  if st.maxSessions < st.size then
    if others < st.evictCount then .ok others.toNat
    else
      match st.uncountable with
      | some kind => .error (.wrongType (.notCountable kind))
      | none => .ok st.evictCount.toNat
  else .ok 0

/-- Puts a session last. -/
def join (st : Store) (s : Session) : Store :=
  { st with sessions := without s.id st.sessions ++ [s] }

/-- Lets the excess go. -/
def settle (st : Store) : Trail Store := do
  let gone ← .ofExcept st.excess
  ⟨.ok { st with sessions := st.sessions.drop gone },
    (st.sessions.take gone).map fun s => .log .debug s!"Evicted session {s.id}"⟩

/-- Starts a session, with the id that is given or else a generated one, and puts it last. -/
def begin (st : Store) (r : Report) (units : List SourceUnit) (hasModel : Bool)
    (given : Option String) : String × Store :=
  let generated := if isGivenId given then st.generated else st.generated + 1
  let id := sessionIdOr generated given
  (id, { st with generated }.join { id, report := r, units, hasModel })

/-- Starts a session and lets the excess go. -/
def create (st : Store) (r : Report) (units : List SourceUnit) (hasModel : Bool)
    (given : Option String) : Trail (String × Store) := do
  let (id, st) := st.begin r units hasModel given
  return (id, ← st.settle)

/-- The session of an id. -/
def get (st : Store) (id : String) : Except Failure Session :=
  match st.sessions.find? fun s => s.id == id with
  | some s => .ok s
  | none => .error (.sessionNotFound id)

/-- A session that changed, in its place. -/
def update (st : Store) (s : Session) : Store :=
  { st with sessions := st.sessions.map fun t => if t.id == s.id then s else t }

/-- Asks the session of an id; `reply` says what the model answers it. -/
def ask (st : Store) (id question : String) (reply : Session → Reply) :
    Trail (Option String × Store) := do
  let s ← .ofExcept (st.get id)
  let (answer, s) ← s.ask question (reply s)
  return (answer, st.update s)

/-- Forgets the history of a session. -/
def clear (st : Store) (id : String) : Except Failure Store := do
  let s ← st.get id
  return st.update s.clear

/-- Ends a session. -/
def delete (st : Store) (id : String) : Except Failure Store := do
  let _ ← st.get id
  return { st with sessions := without id st.sessions }

end Store

end Assay
