import Mathlib.Algebra.Ring.Nat
import Mathlib.Data.Nat.Find
import Mathlib.Order.Bounds.Basic
import Assay.Detection.Functions

/-!
# What the functions of a file are

A rule of where functions stop settles what the functions of a file are: the first line that
declares one starts it, the rule stops it, and the next one is looked for from there on.

* `Delimits`: the functions of a file by such a rule;
* `Delimits.eq`, `exists_delimits`: there is one list of them;
* `Delimits.mem`, `Delimits.pairwise`: what each of them is, and how they stand;
* `OpenFunction.Tracks`: what a function is while it is open;
* `Ends`: the functions of a file once one is open.
-/

namespace Assay

variable {l : Language} {lines : List (List Char)}

/-- The lines of a file from one up to another, which is not among them. -/
def linesUpTo (lines : List (List Char)) (start stop : Nat) : List (List Char) :=
  (lines.take stop).drop start

theorem linesUpTo_self (lines : List (List Char)) (n : Nat) : linesUpTo lines n n = [] :=
  List.drop_eq_nil_of_le (List.length_take_le n lines)

theorem linesUpTo_succ {start n : Nat} {line : List Char} (hle : start ≤ n)
    (hline : lines[n]? = some line) :
    linesUpTo lines start (n + 1) = linesUpTo lines start n ++ [line] := by
  have hlt : n < lines.length := (List.getElem?_eq_some_iff.mp hline).1
  have hstart : start ≤ (lines.take n).length := by
    rw [List.length_take]
    omega
  rw [linesUpTo, List.take_add_one, hline, List.drop_append_of_le_length hstart]
  rfl

theorem countP_linesUpTo_succ (p : List Char → Bool) {start n : Nat} {line : List Char}
    (hle : start ≤ n) (hline : lines[n]? = some line) :
    (linesUpTo lines start (n + 1)).countP p =
      (linesUpTo lines start n).countP p + (p line).toNat := by
  rw [linesUpTo_succ hle hline, List.countP_append, List.countP_singleton]
  cases p line with
  | true => rfl
  | false => rfl

theorem drop_eq_cons {n : Nat} {line : List Char} {rest : List (List Char)}
    (h : lines.drop n = line :: rest) : lines[n]? = some line ∧ lines.drop (n + 1) = rest := by
  constructor
  · rw [← List.head?_drop, h]
    rfl
  · rw [← List.tail_drop, h]
    rfl

/-- The name that a line of a file declares. -/
def declaredAt? (lines : List (List Char)) (n : Nat) : Option String :=
  lines[n]?.bind declaredName?

theorem lt_of_declaredAt? {n : Nat} {name : String} (h : declaredAt? lines n = some name) :
    n < lines.length := by
  obtain ⟨line, hline, _⟩ := Option.bind_eq_some_iff.mp h
  exact (List.getElem?_eq_some_iff.mp hline).1

theorem declaredAt?_of_le {n : Nat} (h : lines.length ≤ n) : declaredAt? lines n = none := by
  rw [declaredAt?, List.getElem?_eq_none h]
  rfl

/-- The function that lines make: their number, and one decision more than they have. -/
def FunctionSpan.ofLines (l : Language) (lines : List (List Char)) (name : String)
    (start stop : Nat) : FunctionSpan where
  name := name
  start := start
  lineCount := stop - start
  complexity := 1 + ((linesUpTo lines start stop).map l.decisionCount).sum

theorem FunctionSpan.ofLines_succ {start n : Nat} {line : List Char} (name : String)
    (hle : start ≤ n) (hline : lines[n]? = some line) :
    ofLines l lines name start (n + 1) =
      { ofLines l lines name start n with
        lineCount := (ofLines l lines name start n).lineCount + 1
        complexity := (ofLines l lines name start n).complexity + l.decisionCount line } := by
  simp only [ofLines, linesUpTo_succ hle hline, List.map_append, List.map_cons, List.map_nil,
    List.sum_append, List.sum_cons, List.sum_nil, Nat.add_zero, Nat.add_assoc,
    Nat.sub_add_comm hle]

/-- Line `start` is the first one from line `n` on that declares a function. -/
structure IsNextDeclaration (lines : List (List Char)) (n start : Nat) (name : String) : Prop where
  le : n ≤ start
  declared : declaredAt? lines start = some name
  first : ∀ m, n ≤ m → m < start → declaredAt? lines m = none

namespace IsNextDeclaration

variable {n start start' : Nat} {name name' : String}

theorem start_eq (h : IsNextDeclaration lines n start name)
    (h' : IsNextDeclaration lines n start' name') : start = start' := by
  rcases Nat.lt_trichotomy start start' with hlt | heq | hlt
  · have hnone := h'.first start h.le hlt
    rw [h.declared] at hnone
    cases hnone
  · exact heq
  · have hnone := h.first start' h'.le hlt
    rw [h'.declared] at hnone
    cases hnone

/-- There is no next declaration where no line declares anything. -/
theorem not_of_none (hnone : ∀ m, n ≤ m → declaredAt? lines m = none) :
    ¬ IsNextDeclaration lines n start name := by
  intro h
  have hdeclared := h.declared
  rw [hnone start h.le] at hdeclared
  cases hdeclared

/-- The line itself is the next declaration if it declares a function. -/
theorem here (h : declaredAt? lines n = some name) : IsNextDeclaration lines n n name where
  le := Nat.le_refl n
  declared := h
  first := by
    intro m hle hlt
    omega

/-- A line that declares nothing may be passed over. -/
theorem skip (hnone : declaredAt? lines n = none)
    (h : IsNextDeclaration lines (n + 1) start name) : IsNextDeclaration lines n start name where
  le := Nat.le_of_succ_le h.le
  declared := h.declared
  first := by
    intro m hle hlt
    rcases Nat.eq_or_lt_of_le hle with rfl | hlater
    · exact hnone
    · exact h.first m hlater hlt

end IsNextDeclaration

/-- From a line on there is a next declaration or none at all. -/
theorem next_or_none (lines : List (List Char)) (n : Nat) :
    (∃ start name, IsNextDeclaration lines n start name) ∨
      ∀ m, n ≤ m → declaredAt? lines m = none := by
  classical
  by_cases h : ∃ m, n ≤ m ∧ declaredAt? lines m ≠ none
  · obtain ⟨hle, hsome⟩ := Nat.find_spec h
    obtain ⟨name, hname⟩ := Option.ne_none_iff_exists'.mp hsome
    have hfirst : ∀ m, n ≤ m → m < Nat.find h → declaredAt? lines m = none := by
      intro m hm hlt
      by_contra hne
      exact Nat.find_min h hlt ⟨hm, hne⟩
    exact .inl ⟨Nat.find h, name, hle, hname, hfirst⟩
  · right
    intro m hm
    by_contra hne
    exact h ⟨m, hm, hne⟩

/-- A line is the first of its kind if no line before it is one. -/
theorem isLeast_of_unmet {p : Nat → Prop} {n : Nat} (hn : p n) (hbefore : ∀ e, e < n → ¬ p e) :
    IsLeast {e | p e} n := by
  constructor
  · exact hn
  · intro e he
    by_contra hlt
    exact hbefore e (Nat.lt_of_not_le hlt) he

/-- The functions of a file from line `n` on, where `stops start stop` says that the function
declared on line `start` goes up to line `stop`, which is no part of it. Inside a function no
other one is looked for, and one that never stops is none. -/
inductive Delimits (l : Language) (lines : List (List Char)) (stops : Nat → Nat → Prop) :
    Nat → List FunctionSpan → Prop
  | undeclared {n : Nat} (hnone : ∀ m, n ≤ m → declaredAt? lines m = none) :
      Delimits l lines stops n []
  | unended {n start : Nat} {name : String} (hnext : IsNextDeclaration lines n start name)
      (hnever : ∀ stop, ¬ stops start stop) : Delimits l lines stops n []
  | function {n start stop : Nat} {name : String} {spans : List FunctionSpan}
      (hnext : IsNextDeclaration lines n start name) (hstops : stops start stop)
      (hrest : Delimits l lines stops stop spans) :
      Delimits l lines stops n (FunctionSpan.ofLines l lines name start stop :: spans)

/-- A rule stops a function at one place at most, after its declaration and within the file. -/
structure IsStopRule (lines : List (List Char)) (stops : Nat → Nat → Prop) : Prop where
  unique : ∀ {start stop stop' : Nat}, stops start stop → stops start stop' → stop = stop'
  lt : ∀ {start stop : Nat}, stops start stop → start < stop
  le_length : ∀ {start stop : Nat}, stops start stop → stop ≤ lines.length

namespace Delimits

variable {stops stops' : Nat → Nat → Prop} {n : Nat} {spans spans' : List FunctionSpan}

/-- There is one list of functions at most. -/
theorem eq (hrule : IsStopRule lines stops) (h : Delimits l lines stops n spans)
    (h' : Delimits l lines stops n spans') : spans = spans' := by
  induction h generalizing spans' with
  | undeclared hnone =>
    cases h' with
    | undeclared _ => rfl
    | unended _ _ => rfl
    | function hnext _ _ => exact absurd hnext (IsNextDeclaration.not_of_none hnone)
  | unended hnext hnever =>
    cases h' with
    | undeclared _ => rfl
    | unended _ _ => rfl
    | function hnext' hstops _ =>
      obtain rfl := hnext.start_eq hnext'
      exact absurd hstops (hnever _)
  | function hnext hstops _ ih =>
    cases h' with
    | undeclared hnone => exact absurd hnext (IsNextDeclaration.not_of_none hnone)
    | unended hnext' hnever =>
      obtain rfl := hnext.start_eq hnext'
      exact absurd hstops (hnever _)
    | function hnext' hstops' hrest' =>
      obtain rfl := hnext.start_eq hnext'
      obtain rfl := hrule.unique hstops hstops'
      obtain rfl := Option.some.inj (hnext.declared.symm.trans hnext'.declared)
      rw [ih hrest']

theorem iff_eq (hrule : IsStopRule lines stops) (h : Delimits l lines stops n spans)
    (spans' : List FunctionSpan) : Delimits l lines stops n spans' ↔ spans' = spans := by
  constructor
  · intro h'
    exact h'.eq hrule h
  · rintro rfl
    exact h

/-- Lines before the next declaration make no difference. -/
theorem skip (hnone : declaredAt? lines n = none) (h : Delimits l lines stops (n + 1) spans) :
    Delimits l lines stops n spans := by
  cases h with
  | undeclared hnone' =>
    apply Delimits.undeclared
    intro m hm
    rcases Nat.eq_or_lt_of_le hm with rfl | hlater
    · exact hnone
    · exact hnone' m hlater
  | unended hnext hnever => exact .unended (hnext.skip hnone) hnever
  | function hnext hstops hrest => exact .function (hnext.skip hnone) hstops hrest

/-- Every function of a file is one by its declaration and the rule. -/
theorem mem (hrule : IsStopRule lines stops) (h : Delimits l lines stops n spans)
    {f : FunctionSpan} (hf : f ∈ spans) :
    n ≤ f.start ∧ declaredAt? lines f.start = some f.name ∧
      stops f.start (f.start + f.lineCount) ∧
      f = FunctionSpan.ofLines l lines f.name f.start (f.start + f.lineCount) := by
  induction h with
  | undeclared _ => cases hf
  | unended _ _ => cases hf
  | @function n start stop name spans hnext hstops _ ih =>
    have hlt := hrule.lt hstops
    rcases List.mem_cons.mp hf with rfl | hf
    · have hstop : start + (stop - start) = stop := by omega
      refine ⟨hnext.le, hnext.declared, ?_, ?_⟩
      · change stops start (start + (stop - start))
        rw [hstop]
        exact hstops
      · exact congrArg (FunctionSpan.ofLines l lines name start) hstop.symm
    · obtain ⟨hle, hrest⟩ := ih hf
      have hnextle := hnext.le
      exact ⟨by omega, hrest⟩

/-- Another rule has the same functions if it stops these where they stop, and no others. -/
theorem congr (hrule : IsStopRule lines stops) (h : Delimits l lines stops n spans)
    (hsame : ∀ f ∈ spans, stops' f.start (f.start + f.lineCount))
    (hnone : ∀ start, (∀ stop, ¬ stops start stop) → ∀ stop, ¬ stops' start stop) :
    Delimits l lines stops' n spans := by
  induction h with
  | undeclared hnever => exact .undeclared hnever
  | unended hnext hnever => exact .unended hnext (hnone _ hnever)
  | @function n start stop name spans hnext hstops _ ih =>
    have hstop : start + (stop - start) = stop := by
      have := hrule.lt hstops
      omega
    have hhead : stops' start (start + (stop - start)) := hsame _ List.mem_cons_self
    rw [hstop] at hhead
    apply Delimits.function hnext hhead
    apply ih
    intro f hf
    exact hsame f (List.mem_cons_of_mem _ hf)

theorem pairwise (hrule : IsStopRule lines stops) (h : Delimits l lines stops n spans) :
    spans.Pairwise fun f g => f.start + f.lineCount ≤ g.start := by
  induction h with
  | undeclared _ => exact .nil
  | unended _ _ => exact .nil
  | @function n start stop name spans _ hstops hrest ih =>
    have hhead : ∀ g ∈ spans, start + (stop - start) ≤ g.start := by
      intro g hg
      have hlt := hrule.lt hstops
      have hle := (hrest.mem hrule hg).1
      omega
    exact List.pairwise_cons.mpr ⟨hhead, ih⟩

/-- No line starts two functions. -/
theorem nodup_start (hrule : IsStopRule lines stops) (h : Delimits l lines stops n spans) :
    (spans.map (·.start)).Nodup := by
  apply List.pairwise_map.mpr
  apply (h.pairwise hrule).imp_of_mem
  intro f g hf _ hle heq
  have hlt := hrule.lt (h.mem hrule hf).2.2.1
  omega

end Delimits

/-- Every rule has a list of functions. -/
theorem exists_delimits {stops : Nat → Nat → Prop} (hrule : IsStopRule lines stops) (l : Language)
    (n : Nat) : ∃ spans, Delimits l lines stops n spans := by
  induction h : lines.length - n using Nat.strongRecOn generalizing n with
  | ind k ih =>
    subst h
    rcases next_or_none lines n with ⟨start, name, hnext⟩ | hnone
    · by_cases hstops : ∃ stop, stops start stop
      · obtain ⟨stop, hstops⟩ := hstops
        have hlt := hrule.lt hstops
        have hstart := lt_of_declaredAt? hnext.declared
        have hle := hnext.le
        have hless : lines.length - stop < lines.length - n := by omega
        obtain ⟨spans, hspans⟩ := ih _ hless stop rfl
        exact ⟨_, .function hnext hstops hspans⟩
      · have hnever : ∀ stop, ¬ stops start stop := by
          intro stop hstop
          exact hstops ⟨stop, hstop⟩
        exact ⟨[], .unended hnext hnever⟩
    · exact ⟨[], .undeclared hnone⟩

/-- What the functions of a file are once the one declared on line `start` is open: itself, if the
rule stops it, and those after it. -/
def Ends (l : Language) (lines : List (List Char)) (stops : Nat → Nat → Prop) (name : String)
    (start : Nat) (spans : List FunctionSpan) : Prop :=
  (∃ stop rest, stops start stop ∧ spans = FunctionSpan.ofLines l lines name start stop :: rest ∧
      Delimits l lines stops stop rest) ∨
    (∀ stop, ¬ stops start stop) ∧ spans = []

theorem Ends.delimits {stops : Nat → Nat → Prop} {name : String} {n start : Nat}
    {spans : List FunctionSpan} (h : Ends l lines stops name start spans)
    (hnext : IsNextDeclaration lines n start name) : Delimits l lines stops n spans := by
  rcases h with ⟨stop, rest, hstops, rfl, hrest⟩ | ⟨hnever, rfl⟩
  · exact .function hnext hstops hrest
  · exact .unended hnext hnever

namespace OpenFunction

/-- A function is open before line `n`: it is what the lines from its declaration up to there
make. -/
structure Tracks (l : Language) (lines : List (List Char)) (f : OpenFunction) (n : Nat) : Prop where
  le : f.start ≤ n
  declared : declaredAt? lines f.start = some f.name
  span : f.toSpan = FunctionSpan.ofLines l lines f.name f.start n

theorem Tracks.absorb {f : OpenFunction} {n : Nat} {line : List Char} (h : f.Tracks l lines n)
    (hline : lines[n]? = some line) : (f.absorb l line).Tracks l lines (n + 1) where
  le := Nat.le_succ_of_le h.le
  declared := h.declared
  span := by
    change _ = FunctionSpan.ofLines l lines f.name f.start (n + 1)
    rw [FunctionSpan.ofLines_succ f.name h.le hline, ← h.span]
    rfl

/-- Braces are nothing to what a function is made of. -/
theorem Tracks.weigh {f : OpenFunction} {n : Nat} (h : f.Tracks l lines n) (line : List Char) :
    (f.weigh line).Tracks l lines n :=
  ⟨h.le, h.declared, h.span⟩

end OpenFunction

theorem openFunction?_start {n : Nat} {line : List Char} {f : OpenFunction}
    (h : openFunction? n line = some f) : f.start = n := by
  obtain ⟨name, _, rfl⟩ := Option.map_eq_some_iff.mp h
  rfl

/-- A function that has just been declared has no lines yet. -/
theorem tracks_openFunction? {n : Nat} {line : List Char} (hline : lines[n]? = some line)
    {f : OpenFunction} (h : openFunction? n line = some f) : f.Tracks l lines n := by
  obtain ⟨name, hname, rfl⟩ := Option.map_eq_some_iff.mp h
  refine ⟨Nat.le_refl n, ?_, ?_⟩
  · change lines[n]?.bind declaredName? = some name
    rw [hline]
    exact hname
  · simp [OpenFunction.toSpan, FunctionSpan.ofLines, linesUpTo_self]

/-- A line that starts no function declares none. -/
theorem declaredAt?_eq_none {n : Nat} {line : List Char} (hline : lines[n]? = some line)
    (h : openFunction? n line = none) : declaredAt? lines n = none := by
  rw [declaredAt?, hline]
  exact Option.map_eq_none_iff.mp h

end Assay
