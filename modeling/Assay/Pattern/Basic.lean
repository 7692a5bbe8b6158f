import Assay.Text.Class

/-!
# Text patterns

A small language of patterns over characters, with the meaning of backtracking search: a pattern
offers the ends it can reach in order of preference, and the first one that the rest of the search
accepts is taken.

* `CharClass`: sets of characters;
* `Pattern`: sequences, alternatives, optional parts, captures and anchors; only a class may be
  repeated, so a pattern is finite data and matching recurses on it;
* `Cursor`: a place in a text, knowing the character before it;
* `Pattern.attempt`: the matcher, in continuation-passing form;
* `Pattern.ends`: the same matcher as the list of everything it can reach, which is what the
  matcher means: `Pattern.attempt_eq_findSome?`.
-/

namespace Assay

/-- A set of characters. -/
inductive CharClass where
  /-- One character. -/
  | exactly (c : Char)
  /-- A letter in either case. -/
  | letter (c : Char)
  /-- The characters of a list. -/
  | among (cs : List Char)
  /-- Every character. -/
  | any
  | word
  | decimal
  | blank
  | union (a b : CharClass)
  | compl (a : CharClass)
  deriving DecidableEq, Repr

namespace CharClass

/-- Membership. -/
def mem : CharClass → Char → Bool
  | exactly c, x => x == c
  | letter c, x => Text.foldLetter x == Text.foldLetter c
  | among cs, x => cs.contains x
  | any, _ => true
  | word, x => Text.isWord x
  | decimal, x => Text.isDecimal x
  | blank, x => Text.isBlank x
  | union a b, x => a.mem x || b.mem x
  | compl a, x => !a.mem x

/-- The characters of a string. -/
def oneOf (s : String) : CharClass :=
  among s.toList

/-- All characters but those of a string. -/
def noneOf (s : String) : CharClass :=
  compl (among s.toList)

/-- Word characters and those of a string. -/
def wordOr (s : String) : CharClass :=
  union word (among s.toList)

/-- Every character but the newline. -/
def inLine : CharClass :=
  compl (exactly '\n')

/-- The class with its letter in either case. -/
def ignoreCase : CharClass → CharClass
  | exactly c => if c.isAlpha then letter c else exactly c
  | s => s

end CharClass

/-- What a search looks for. -/
inductive Pattern where
  /-- The empty text. -/
  | nothing
  /-- One character of a class. -/
  | one (s : CharClass)
  /-- At least `least` characters of a class, as many as possible if `greedy` and as few as
  possible otherwise. -/
  | run (s : CharClass) (least : Nat) (greedy : Bool)
  | cat (p q : Pattern)
  /-- The first pattern, or else the second. -/
  | either (p q : Pattern)
  /-- The pattern if it is there. -/
  | maybe (p : Pattern)
  /-- The pattern, remembering the text it took as group `n`. -/
  | capture (n : Nat) (p : Pattern)
  /-- Between a word character and anything else. -/
  | boundary
  | lineStart
  | textStart
  /-- At the end of the text, or before a newline that ends it. -/
  | textEnd
  deriving DecidableEq, Repr

/-- A place in a text: how many characters come before it, the last of them, and what follows. -/
structure Cursor where
  pos : Nat
  before : Option Char
  rest : List Char
  deriving DecidableEq, Repr

namespace Cursor

/-- The start of a text. -/
def start (s : List Char) : Cursor :=
  ⟨0, none, s⟩

/-- The place after a character that was taken. -/
def past (c : Cursor) (x : Char) (rest : List Char) : Cursor :=
  ⟨c.pos + 1, some x, rest⟩

/-- One character of a class is taken. -/
def step (c : Cursor) (s : CharClass) : Option Cursor :=
  match c.rest with
  | [] => none
  | x :: r => if s.mem x then some (c.past x r) else none

/-- The places reached by taking characters of a class, the farthest first. -/
def reach (s : CharClass) (pos : Nat) (before : Option Char) : List Char → List Cursor → List Cursor
  | [], acc => ⟨pos, before, []⟩ :: acc
  | x :: r, acc =>
    if s.mem x then reach s (pos + 1) (some x) r (⟨pos, before, x :: r⟩ :: acc)
    else ⟨pos, before, x :: r⟩ :: acc

/-- The places after `least` or more characters of a class, in order of preference. -/
def runs (c : Cursor) (s : CharClass) (least : Nat) (greedy : Bool) : List Cursor :=
  let places := (reach s c.pos c.before c.rest []).takeWhile fun d => c.pos + least ≤ d.pos
  if greedy then places else places.reverse

/-- A word character on exactly one side. -/
def atBoundary (c : Cursor) : Bool :=
  (c.before.map Text.isWord).getD false != (c.rest.head?.map Text.isWord).getD false

def atLineStart (c : Cursor) : Bool :=
  c.before == none || c.before == some '\n'

def atTextEnd (c : Cursor) : Bool :=
  c.rest.isEmpty || c.rest == ['\n']

/-- The text between two places. -/
def textTo (c d : Cursor) : List Char :=
  c.rest.take (d.pos - c.pos)

end Cursor

/-- Texts remembered by number, the latest first. -/
abbrev Captures := List (Nat × List Char)

namespace Pattern

/-- Tries the ends of a pattern in order of preference and returns what the rest of the search
makes of the first one that it accepts. -/
def attempt {α : Type} (p : Pattern) (c : Cursor) (caps : Captures)
    (k : Cursor → Captures → Option α) : Option α :=
  match p with
  | nothing => k c caps
  | one s => (c.step s).bind fun d => k d caps
  | run s least greedy => (c.runs s least greedy).findSome? fun d => k d caps
  | cat p q => p.attempt c caps fun d caps => q.attempt d caps k
  | either p q =>
    match p.attempt c caps k with
    | some a => some a
    | none => q.attempt c caps k
  | maybe p =>
    match p.attempt c caps k with
    | some a => some a
    | none => k c caps
  | capture n p => p.attempt c caps fun d caps => k d ((n, c.textTo d) :: caps)
  | boundary => if c.atBoundary then k c caps else none
  | lineStart => if c.atLineStart then k c caps else none
  | textStart => if c.before == none then k c caps else none
  | textEnd => if c.atTextEnd then k c caps else none

/-- Every end that a pattern can reach, in order of preference. -/
def ends (p : Pattern) (c : Cursor) (caps : Captures) : List (Cursor × Captures) :=
  match p with
  | nothing => [(c, caps)]
  | one s => ((c.step s).map fun d => (d, caps)).toList
  | run s least greedy => (c.runs s least greedy).map fun d => (d, caps)
  | cat p q => (p.ends c caps).flatMap fun (d, caps) => q.ends d caps
  | either p q => p.ends c caps ++ q.ends c caps
  | maybe p => p.ends c caps ++ [(c, caps)]
  | capture n p => (p.ends c caps).map fun (d, caps) => (d, (n, c.textTo d) :: caps)
  | boundary => if c.atBoundary then [(c, caps)] else []
  | lineStart => if c.atLineStart then [(c, caps)] else []
  | textStart => if c.before == none then [(c, caps)] else []
  | textEnd => if c.atTextEnd then [(c, caps)] else []

theorem findSome?_flatMap {α β γ : Type} (f : α → List β) (g : β → Option γ) (xs : List α) :
    (xs.flatMap f).findSome? g = xs.findSome? fun x => (f x).findSome? g := by
  induction xs with
  | nil => rfl
  | cons x xs ih =>
    simp only [List.flatMap_cons, List.findSome?_append, List.findSome?_cons, ih]
    cases (f x).findSome? g <;> rfl

/-- Trying a pattern is taking the first of its ends that the rest of the search accepts. -/
theorem attempt_eq_findSome? {α : Type} (p : Pattern) (c : Cursor) (caps : Captures)
    (k : Cursor → Captures → Option α) :
    p.attempt c caps k = (p.ends c caps).findSome? fun e => k e.1 e.2 := by
  induction p generalizing c caps k with
  | nothing => simp [attempt, ends]
  | one s => cases h : c.step s <;> simp [attempt, ends, h]
  | run s least greedy => simp [attempt, ends, List.findSome?_map, Function.comp_def]
  | cat p q ihp ihq =>
    simp only [attempt, ends, ihp, ihq, findSome?_flatMap]
  | either p q ihp ihq =>
    simp only [attempt, ends, ihp, ihq, List.findSome?_append]
    cases List.findSome? (fun e => k e.1 e.2) (p.ends c caps) <;> rfl
  | maybe p ih =>
    simp only [attempt, ends, ih, List.findSome?_append]
    cases List.findSome? (fun e => k e.1 e.2) (p.ends c caps) <;> simp
  | capture n p ih => simp [attempt, ends, ih, List.findSome?_map, Function.comp_def]
  | boundary => by_cases h : c.atBoundary <;> simp [attempt, ends, h]
  | lineStart => by_cases h : c.atLineStart <;> simp [attempt, ends, h]
  | textStart => by_cases h : c.before == none <;> simp [attempt, ends, h]
  | textEnd => by_cases h : c.atTextEnd <;> simp [attempt, ends, h]

end Pattern

end Assay
