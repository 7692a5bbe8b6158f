import Assay.Proofs.Review.Batches

/-!
# Problems of a reply

The array in a reply starts with a bracket, so what is read from it is an array or nothing: the only
problem a reply can have is that the reader has one. That problem has words, so the batch is known by
it.

* `ofReply_other`: no reply is said to hold another value;
* `ofOutcome_status`: what a parsed reply makes of its batch;
* `problem_of_reader`: where problems come from, and what becomes of them.
-/

namespace Assay

namespace Review

variable {paths : List String} {idOf : Nat → String} {first : Nat}

/-- No reply is said to hold another value than an array: the reader says no such thing. -/
theorem ofReply_other {reply : Option String} {o : ParseOutcome}
    (h : ParseOutcome.ofReply paths idOf first reply = .ok o) (kind : String) :
    o.problem ≠ some s!"expected a JSON array, got {kind}" := by
  intro hproblem
  obtain ⟨_, e, _, _, hmessage⟩ := (ofReply_problem_iff h).mp hproblem
  refine e.message_ne_of_first (c := 'e') ?_ (by decide) hmessage
  exact Json.head?_toList_append rfl _

theorem ofReply_unreadable {reply : Option String} {span : List Char} {e : Json.ReadError}
    (hspan : IsSpan (reply.getD "").toList span) (hread : Json.read span = .error e) :
    ParseOutcome.ofReply paths idOf first reply =
      .ok { foundArray := true, problem := some e.message } := by
  simp only [ParseOutcome.ofReply, arraySpan?_eq_some_iff.mpr hspan, hread]

/-! ## The batch -/

/-- What a call that comes back makes of its batch is what its reply does. -/
theorem reviewBatch_returned {index : Int} {batch : List SourceUnit} {reply : Reply}
    {said : Option String} {o : ParseOutcome} (hr : Returns reply said)
    (ho : ParseOutcome.ofReply (batch.map (·.path)) idOf first said = .ok o) :
    (reviewBatch idOf false index batch first (some reply)).outcome =
      (BatchResult.ofOutcome index (batch.map (·.path)) o).outcome := by
  cases hr with
  | text s => simp [reviewBatch, BatchResult.ofReply, ho]
  | nothing => simp [reviewBatch, BatchResult.ofReply, ho]

theorem ofOutcome_problem {index : Int} {reply : Option String} {o : ParseOutcome}
    {problem : String} (ho : ParseOutcome.ofReply paths idOf first reply = .ok o)
    (hproblem : o.problem = some problem) :
    (BatchResult.ofOutcome index paths o).outcome =
      .ok { index, paths, status := .parseError, problem := some problem } := by
  rw [BatchResult.ofOutcome, ofReply_problem_filter ho, hproblem]
  rfl

theorem ofOutcome_clear {index : Int} {o : ParseOutcome} (hproblem : o.problem = none) :
    (BatchResult.ofOutcome index paths o).outcome =
      .ok { index, paths, status := if o.foundArray then .ok else .noArray,
            issues := if o.foundArray then o.issues else [] } := by
  rw [BatchResult.ofOutcome, hproblem]
  cases o.foundArray with
  | true => rfl
  | false => rfl

/-- **Where problems come from.** What is read from the array in a reply is an array. So a reply has
a problem exactly if the reader has one with that array, and it is the one in the reader's words,
which are never none, and never that there is another value. A batch whose reply has a problem is
known by it, and no other batch that is called is. -/
theorem problem_of_reader (idOf : Nat → String) (first : Nat) (said : Option String) :
    (∀ span v, arraySpan? (said.getD "").toList = some span → Json.read span = .ok v →
      ∃ items, v = .arr items) ∧
    (∀ paths span e, arraySpan? (said.getD "").toList = some span → Json.read span = .error e →
      ParseOutcome.ofReply paths idOf first said =
        .ok { foundArray := true, problem := some e.message }) ∧
    (∀ paths o problem, ParseOutcome.ofReply paths idOf first said = .ok o →
      o.problem = some problem →
      (∃ span e, arraySpan? (said.getD "").toList = some span ∧ Json.read span = .error e ∧
        e.message = problem) ∧
      problem ≠ "" ∧ ∀ kind : String, problem ≠ s!"expected a JSON array, got {kind}") ∧
    (∀ (index : Int) (batch : List SourceUnit) (reply : Reply) (o : ParseOutcome),
      Returns reply said →
      ParseOutcome.ofReply (batch.map (·.path)) idOf first said = .ok o →
      ∃ r, (reviewBatch idOf false index batch first (some reply)).outcome = .ok r ∧
        (∀ problem, o.problem = some problem → r =
          { index, paths := batch.map (·.path), status := .parseError, problem := some problem }) ∧
        (o.problem = none →
          r.status = (if o.foundArray then .ok else .noArray) ∧ r.problem = none)) := by
  simp only [arraySpan?_eq_some_iff]
  refine ⟨fun span v hspan => hspan.read, fun paths span e => ofReply_unreadable, ?_, ?_⟩
  · intro paths o problem ho hproblem
    obtain ⟨span, e, hspan, hread, hmessage⟩ := (ofReply_problem_iff ho).mp hproblem
    refine ⟨⟨span, e, hspan, hread, hmessage⟩, ?_, ?_⟩
    · rw [← hmessage]
      exact e.message_ne_empty
    · intro kind hkind
      rw [hkind] at hproblem
      exact ofReply_other ho kind hproblem
  · intro index batch reply o hr ho
    rw [reviewBatch_returned hr ho]
    cases hproblem : o.problem with
    | some problem =>
      refine ⟨_, ofOutcome_problem ho hproblem, ?_, nofun⟩
      rintro _ ⟨⟩
      rfl
    | none => exact ⟨_, ofOutcome_clear hproblem, nofun, fun _ => ⟨rfl, rfl⟩⟩

end Review

end Assay
