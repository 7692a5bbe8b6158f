import Assay.Proofs.Report.Identity
import Assay.Proofs.Review.Classification
import Assay.Proofs.Review.Totality

/-!
# Batches by themselves

A review sends its files in batches, one call each, and what comes of a batch hangs on nothing but
its files and its reply. Only the numbers in the ids of issues count on from one batch to the next.

* `getElem?_chunks`, `flatten_chunks`: a list in pieces of one size;
* `Answers`: what a batch comes to, by its reply;
* `Reviews`: the results of batches from one of them on; `reviewFrom_reviews` says that a review
  which ends has such results, and `reviewFrom_prompts` that it asks once for every batch;
* `Answers.alike`: two batches with the same files and the same reply come to the same;
* `reviewAll_accounts`: all this of the review of a set of files.
-/

namespace Assay

/-! ## Lists in pieces -/

section

variable {α : Type} {size : Nat} {xs : List α}

theorem chunks_nil (size : Nat) : chunks size ([] : List α) = [] := by
  rw [chunks]
  simp

theorem chunks_of_ne_nil (hsize : 0 < size) (hxs : xs ≠ []) :
    chunks size xs = xs.take size :: chunks size (xs.drop size) := by
  rw [chunks, dif_neg]
  simp [hsize.ne', hxs]

theorem flatten_chunks (hsize : 0 < size) (xs : List α) : (chunks size xs).flatten = xs := by
  induction hn : xs.length using Nat.strongRecOn generalizing xs with
  | ind n ih =>
    by_cases hxs : xs = []
    · rw [hxs, chunks_nil]
      rfl
    · have hpos := List.length_pos_of_ne_nil hxs
      rw [chunks_of_ne_nil hsize hxs, List.flatten_cons, ih _ ?_ (xs.drop size) rfl,
        List.take_append_drop]
      rw [List.length_drop]
      omega

theorem getElem?_chunks (hsize : 0 < size) (xs : List α) (k : Nat) :
    (chunks size xs)[k]? =
      if size * k < xs.length then some ((xs.drop (size * k)).take size) else none := by
  induction k generalizing xs with
  | zero =>
    by_cases hxs : xs = []
    · simp [hxs, chunks_nil]
    · simp [chunks_of_ne_nil hsize hxs, List.length_pos_of_ne_nil hxs]
  | succ k ih =>
    by_cases hxs : xs = []
    · simp [hxs, chunks_nil]
    · rw [chunks_of_ne_nil hsize hxs, List.getElem?_cons_succ, ih, List.length_drop, List.drop_drop,
        Nat.mul_succ, Nat.add_comm size]
      congr 1
      rw [eq_iff_iff]
      omega

theorem chunks_eq_map (hsize : 0 < size) (xs : List α) :
    chunks size xs =
      (List.range (chunks size xs).length).map fun k => (xs.drop (size * k)).take size := by
  refine List.ext_getElem? fun k => ?_
  rw [List.getElem?_map]
  by_cases hk : k < (chunks size xs).length
  · have hlt := (List.getElem?_eq_none_iff (l := chunks size xs) (i := k)).not.mpr (by omega)
    rw [getElem?_chunks hsize] at hlt ⊢
    split
    · simp [hk]
    · rename_i hnot
      simp [hnot] at hlt
  · simp [hk]

theorem lt_length_chunks (hsize : 0 < size) (xs : List α) (k : Nat) :
    k < (chunks size xs).length ↔ size * k < xs.length := by
  rw [← Nat.not_le, ← List.getElem?_eq_none_iff, getElem?_chunks hsize]
  split
  · rename_i h
    simp [h]
  · rename_i h
    simp [h]

end

namespace Review

variable {paths : List String} {idOf : Nat → String} {first : Nat}

/-! ## One batch -/

/-- A call that comes back, with a text or with nothing. -/
inductive Returns : Reply → Option String → Prop
  | text (s : String) : Returns (.text s) (some s)
  | nothing : Returns .nothing none

/-- What a batch comes to, by its reply: a call that fails has no issues, and neither has a reply
without an array or with one that cannot be read. -/
inductive Answers (paths : List String) (idOf : Nat → String) (first : Nat) :
    Reply → BatchStatus → List Issue → Prop
  | refused (message : String) :
      Answers paths idOf first (.serviceError message) .serviceError []
  | crashed (kind message : String) :
      Answers paths idOf first (.crash kind message) .serviceError []
  | unreadable {reply : Reply} {said : Option String} {o : ParseOutcome} (hr : Returns reply said)
      (ho : ParseOutcome.ofReply paths idOf first said = .ok o) (hp : o.problem ≠ none) :
      Answers paths idOf first reply .parseError []
  | empty {reply : Reply} {said : Option String} {o : ParseOutcome} (hr : Returns reply said)
      (ho : ParseOutcome.ofReply paths idOf first said = .ok o) (hp : o.problem = none)
      (hf : o.foundArray = false) : Answers paths idOf first reply .noArray []
  | read {reply : Reply} {said : Option String} {o : ParseOutcome} (hr : Returns reply said)
      (ho : ParseOutcome.ofReply paths idOf first said = .ok o) (hp : o.problem = none)
      (hf : o.foundArray = true) : Answers paths idOf first reply .ok o.issues

theorem Answers.failed {reply : Reply} {status : BatchStatus} {issues : List Issue}
    (h : Answers paths idOf first reply status issues) (hs : status ≠ .ok) : issues = [] := by
  cases h with
  | refused | crashed | unreadable | empty => rfl
  | read => exact absurd rfl hs

theorem ofOutcome_answers {index : Int} {reply : Reply} {said : Option String} {o : ParseOutcome}
    {r : BatchResult} (hr : Returns reply said)
    (ho : ParseOutcome.ofReply paths idOf first said = .ok o)
    (h : (BatchResult.ofOutcome index paths o).outcome = .ok r) :
    r.index = index ∧ r.paths = paths ∧ Answers paths idOf first reply r.status r.issues := by
  rw [BatchResult.ofOutcome, ofReply_problem_filter ho] at h
  split at h
  · rename_i problem hp
    obtain rfl := Except.ok.inj h
    exact ⟨rfl, rfl, .unreadable hr ho (by simp [hp])⟩
  · rename_i hp
    split at h
    · rename_i hf
      obtain rfl := Except.ok.inj h
      exact ⟨rfl, rfl, .read hr ho hp hf⟩
    · rename_i hf
      obtain rfl := Except.ok.inj h
      exact ⟨rfl, rfl, .empty hr ho hp (by simpa using hf)⟩

theorem ofReply_answers {index : Int} {reply : Reply} {r : BatchResult}
    (h : (BatchResult.ofReply index paths idOf first reply).outcome = .ok r) :
    r.index = index ∧ r.paths = paths ∧ Answers paths idOf first reply r.status r.issues := by
  cases reply with
  | serviceError message =>
    obtain rfl := Except.ok.inj h
    exact ⟨rfl, rfl, .refused message⟩
  | crash kind message =>
    obtain rfl := Except.ok.inj h
    exact ⟨rfl, rfl, .crashed kind message⟩
  | text s =>
    simp only [BatchResult.ofReply, Trail.outcome_bind, Trail.outcome_ofExcept] at h
    obtain ⟨o, ho, h⟩ := bind_eq_ok.mp h
    exact ofOutcome_answers (.text s) ho h
  | nothing =>
    simp only [BatchResult.ofReply, Trail.outcome_bind, Trail.outcome_ofExcept] at h
    obtain ⟨o, ho, h⟩ := bind_eq_ok.mp h
    exact ofOutcome_answers .nothing ho h

theorem reviewBatch_answers {index : Int} {batch : List SourceUnit} {reply : Reply}
    {r : BatchResult}
    (h : (reviewBatch idOf false index batch first (some reply)).outcome = .ok r) :
    r.index = index ∧ r.paths = batch.map (·.path) ∧
      Answers (batch.map (·.path)) idOf first reply r.status r.issues := by
  simp only [reviewBatch, Bool.false_eq_true, if_false, Trail.outcome_bind, Trail.outcome_emit,
    ok_bind] at h
  exact ofReply_answers h

/-! ## Ids aside -/

theorem issueOf_alike {id id' : String} {o : Json} {i i' : Issue}
    (h : issueOf paths id o = .ok i) (h' : issueOf paths id' o = .ok i') : i.SameButId i' := by
  obtain ⟨line, hline, hi⟩ := bind_eq_ok.mp h
  obtain ⟨line', hline', hi'⟩ := bind_eq_ok.mp h'
  rw [hline, Except.ok.injEq] at hline'
  obtain rfl := hline'
  obtain rfl := Except.ok.inj hi
  obtain rfl := Except.ok.inj hi'
  rfl

theorem issuesOf_alike {idOf' : Nat → String} {first' : Nat} {os : List Json}
    {is is' : List Issue} (h : issuesOf paths idOf first os = .ok is)
    (h' : issuesOf paths idOf' first' os = .ok is') : List.Forall₂ Issue.SameButId is is' := by
  induction os generalizing first first' is is' with
  | nil =>
    obtain rfl := Except.ok.inj h
    obtain rfl := Except.ok.inj h'
    exact .nil
  | cons o os ih =>
    obtain ⟨i, hi, h⟩ := bind_eq_ok.mp h
    obtain ⟨rest, hrest, h⟩ := bind_eq_ok.mp h
    obtain ⟨i', hi', h'⟩ := bind_eq_ok.mp h'
    obtain ⟨rest', hrest', h'⟩ := bind_eq_ok.mp h'
    obtain rfl := Except.ok.inj h
    obtain rfl := Except.ok.inj h'
    exact .cons (issueOf_alike hi hi') (ih hrest hrest')

/-- One outcome is another but for the ids of its issues. -/
structure ParseOutcome.Alike (o o' : ParseOutcome) : Prop where
  problem : o.problem = o'.problem
  foundArray : o.foundArray = o'.foundArray
  issues : List.Forall₂ Issue.SameButId o.issues o'.issues

theorem ofReply_alike {idOf' : Nat → String} {first' : Nat} {said : Option String}
    {o o' : ParseOutcome} (h : ParseOutcome.ofReply paths idOf first said = .ok o)
    (h' : ParseOutcome.ofReply paths idOf' first' said = .ok o') : o.Alike o' := by
  cases hspan : arraySpan? (said.getD "").toList with
  | none =>
    simp only [ParseOutcome.ofReply, hspan, Except.ok.injEq] at h h'
    subst h h'
    exact ⟨rfl, rfl, .nil⟩
  | some span =>
    simp only [ParseOutcome.ofReply, hspan] at h h'
    cases hread : Json.read span with
    | error e =>
      simp only [hread, Except.ok.injEq] at h h'
      subst h h'
      exact ⟨rfl, rfl, .nil⟩
    | ok v =>
      cases v with
      | arr items =>
        simp only [hread] at h h'
        obtain ⟨is, his, h⟩ := bind_eq_ok.mp h
        obtain ⟨is', his', h'⟩ := bind_eq_ok.mp h'
        obtain rfl := Except.ok.inj h
        obtain rfl := Except.ok.inj h'
        exact ⟨rfl, rfl, issuesOf_alike his his'⟩
      | null | bool | int | real | str | obj =>
        simp only [hread, Except.ok.injEq] at h h'
        subst h h'
        exact ⟨rfl, rfl, .nil⟩

theorem Returns.unique {reply : Reply} {said said' : Option String} (h : Returns reply said)
    (h' : Returns reply said') : said = said' := by
  cases h <;> cases h' <;> rfl

/-- Two batches with the same files and the same reply come to the same, ids aside. -/
theorem Answers.alike {idOf' : Nat → String} {first' : Nat} {reply : Reply}
    {status status' : BatchStatus} {issues issues' : List Issue}
    (h : Answers paths idOf first reply status issues)
    (h' : Answers paths idOf' first' reply status' issues') :
    status = status' ∧ List.Forall₂ Issue.SameButId issues issues' := by
  have halike {said said' : Option String} {o o' : ParseOutcome} (hr : Returns reply said)
      (hr' : Returns reply said') (ho : ParseOutcome.ofReply paths idOf first said = .ok o)
      (ho' : ParseOutcome.ofReply paths idOf' first' said' = .ok o') : o.Alike o' := by
    obtain rfl := hr.unique hr'
    exact ofReply_alike ho ho'
  cases h with
  | refused =>
    cases h' with
    | refused => exact ⟨rfl, .nil⟩
    | unreadable hr' | empty hr' | read hr' => cases hr'
  | crashed =>
    cases h' with
    | crashed => exact ⟨rfl, .nil⟩
    | unreadable hr' | empty hr' | read hr' => cases hr'
  | unreadable hr ho hp =>
    cases h' with
    | refused | crashed => cases hr
    | unreadable => exact ⟨rfl, .nil⟩
    | empty hr' ho' hp' | read hr' ho' hp' =>
      exact absurd ((halike hr hr' ho ho').problem.trans hp') hp
  | empty hr ho hp hf =>
    cases h' with
    | refused | crashed => cases hr
    | unreadable hr' ho' hp' => exact absurd ((halike hr hr' ho ho').problem.symm.trans hp) hp'
    | empty => exact ⟨rfl, .nil⟩
    | read hr' ho' hp' hf' =>
      rw [(halike hr hr' ho ho').foundArray, hf'] at hf
      cases hf
  | read hr ho hp hf =>
    cases h' with
    | refused | crashed => cases hr
    | unreadable hr' ho' hp' => exact absurd ((halike hr hr' ho ho').problem.symm.trans hp) hp'
    | empty hr' ho' hp' hf' =>
      rw [(halike hr hr' ho ho').foundArray, hf'] at hf
      cases hf
    | read hr' ho' => exact ⟨rfl, (halike hr hr' ho ho').issues⟩

/-! ## Ids in a row -/

/-- Ids that count on from a number. -/
def idsFrom (idOf : Nat → String) (first count : Nat) : List String :=
  (List.range' first count).map idOf

theorem idsFrom_append (idOf : Nat → String) (first m n : Nat) :
    idsFrom idOf first m ++ idsFrom idOf (first + m) n = idsFrom idOf first (m + n) := by
  simp [idsFrom, ← List.map_append]

theorem issueOf_id {id : String} {o : Json} {i : Issue} (h : issueOf paths id o = .ok i) :
    i.id = id := by
  obtain ⟨_, _, hi⟩ := bind_eq_ok.mp h
  obtain rfl := Except.ok.inj hi
  rfl

theorem issuesOf_ids {os : List Json} {is : List Issue}
    (h : issuesOf paths idOf first os = .ok is) :
    is.map (·.id) = idsFrom idOf first is.length := by
  induction os generalizing first is with
  | nil =>
    obtain rfl := Except.ok.inj h
    rfl
  | cons o os ih =>
    obtain ⟨i, hi, h⟩ := bind_eq_ok.mp h
    obtain ⟨rest, hrest, h⟩ := bind_eq_ok.mp h
    obtain rfl := Except.ok.inj h
    rw [List.map_cons, issueOf_id hi, ih hrest, List.length_cons, idsFrom, idsFrom,
      List.range'_succ, List.map_cons]

/-- What comes of a reply is nothing, or what comes of the objects of an array. -/
theorem ofReply_issues {said : Option String} {o : ParseOutcome}
    (h : ParseOutcome.ofReply paths idOf first said = .ok o) :
    o.issues = [] ∨ ∃ items, issuesOf paths idOf first (objectsOf items) = .ok o.issues := by
  rcases ofReply_cases paths idOf first said with ⟨_, ho⟩ | ⟨_, _, ⟨_, _, ho⟩ | ⟨items, _, ho⟩⟩
  · obtain rfl := Except.ok.inj (h.symm.trans ho)
    exact Or.inl rfl
  · obtain rfl := Except.ok.inj (h.symm.trans ho)
    exact Or.inl rfl
  · obtain ⟨is, his, hmade⟩ := bind_eq_ok.mp (ho.symm.trans h)
    obtain rfl := Except.ok.inj hmade
    exact Or.inr ⟨items, his⟩

/-- What comes of a reply has ids that count on. -/
theorem ofReply_ids {said : Option String} {o : ParseOutcome}
    (h : ParseOutcome.ofReply paths idOf first said = .ok o) :
    o.issues.map (·.id) = idsFrom idOf first o.issues.length := by
  rcases ofReply_issues h with hnone | ⟨items, his⟩
  · rw [hnone]
    rfl
  · exact issuesOf_ids his

theorem Answers.ids {reply : Reply} {status : BatchStatus} {issues : List Issue}
    (h : Answers paths idOf first reply status issues) :
    issues.map (·.id) = idsFrom idOf first issues.length := by
  cases h with
  | refused | crashed | unreadable | empty => rfl
  | read hr ho => exact ofReply_ids ho

/-! ## Files at hand -/

theorem Readings.file_mem {items : List Json} {issues : List Issue}
    (h : Readings paths idOf first items issues) : ∀ i ∈ issues, i.file ∈ paths := by
  induction h with
  | nil => simp
  | object hi _ ih => exact List.forall_mem_cons.mpr ⟨hi.file, ih⟩
  | other _ _ ih => exact ih

theorem ofReply_file_mem (hpaths : paths ≠ []) {said : Option String} {o : ParseOutcome}
    (h : ParseOutcome.ofReply paths idOf first said = .ok o) : ∀ i ∈ o.issues, i.file ∈ paths := by
  rcases ofReply_issues h with hnone | ⟨items, his⟩
  · simp [hnone]
  · exact (issuesOf_readings hpaths his).file_mem

theorem Answers.file_mem (hpaths : paths ≠ []) {reply : Reply} {status : BatchStatus}
    {issues : List Issue} (h : Answers paths idOf first reply status issues) :
    ∀ i ∈ issues, i.file ∈ paths := by
  cases h with
  | refused | crashed | unreadable | empty => simp
  | read hr ho => exact ofReply_file_mem hpaths ho

/-! ## All batches -/

/-- The results of batches from one of them on: each has its number, its files and what its reply
comes to, with ids that go on where those of the batches before it stop. -/
inductive Reviews (idOf : Nat → String) (p : Provider) :
    (index first : Nat) → List (List SourceUnit) → List BatchResult → Prop
  | nil {index first : Nat} : Reviews idOf p index first [] []
  | cons {index first : Nat} {batch : List SourceUnit} {bs : List (List SourceUnit)}
      {r : BatchResult} {rs : List BatchResult} (hindex : r.index = index)
      (hpaths : r.paths = batch.map (·.path))
      (hanswers : Answers (batch.map (·.path)) idOf first (p.reply index) r.status r.issues)
      (hrest : Reviews idOf p (index + 1) (first + r.issues.length) bs rs) :
      Reviews idOf p index first (batch :: bs) (r :: rs)

theorem reviewFrom_reviews {p : Provider} {index : Nat} {bs : List (List SourceUnit)}
    {rs : List BatchResult} (h : (reviewFrom idOf (some p) index first bs).outcome = .ok rs) :
    Reviews idOf p index first bs rs := by
  induction bs generalizing index first rs with
  | nil =>
    obtain rfl := Except.ok.inj h
    exact .nil
  | cons batch bs ih =>
    simp only [reviewFrom, Option.map_some, Trail.outcome_bind] at h
    obtain ⟨r, hr, h⟩ := bind_eq_ok.mp h
    obtain ⟨rest, hrest, h⟩ := bind_eq_ok.mp h
    obtain rfl := Except.ok.inj h
    obtain ⟨hindex, hpaths, hanswers⟩ := reviewBatch_answers hr
    exact .cons hindex hpaths hanswers (ih hrest)

section

variable {p : Provider} {index : Nat} {bs : List (List SourceUnit)} {rs : List BatchResult}

theorem Reviews.indices (h : Reviews idOf p index first bs rs) :
    rs.map (·.index) = (List.range' index bs.length).map Int.ofNat := by
  induction h with
  | nil => rfl
  | cons hindex _ _ _ ih =>
    rw [List.map_cons, hindex, ih, List.length_cons, List.range'_succ, List.map_cons]
    rfl

theorem Reviews.map_paths (h : Reviews idOf p index first bs rs) :
    rs.map (·.paths) = bs.map fun batch => batch.map (·.path) := by
  induction h with
  | nil => rfl
  | cons _ hpaths _ _ ih => rw [List.map_cons, List.map_cons, hpaths, ih]

theorem Reviews.ids (h : Reviews idOf p index first bs rs) :
    (rs.flatMap (·.issues)).map (·.id) = idsFrom idOf first (rs.flatMap (·.issues)).length := by
  induction h with
  | nil => rfl
  | cons _ _ hanswers _ ih =>
    rw [List.flatMap_cons, List.map_append, hanswers.ids, ih, List.length_append, idsFrom_append]

/-- The result of a batch is that of its files and its reply. -/
theorem Reviews.answers (h : Reviews idOf p index first bs rs) {k : Nat} {r : BatchResult}
    (hr : rs[k]? = some r) :
    ∃ first', Answers r.paths idOf first' (p.reply (index + k)) r.status r.issues := by
  induction h generalizing k with
  | nil => simp at hr
  | cons _ hpaths hanswers _ ih =>
    cases k with
    | zero =>
      rw [List.getElem?_cons_zero, Option.some.injEq] at hr
      subst hr
      rw [hpaths]
      exact ⟨_, hanswers⟩
    | succ k =>
      obtain ⟨first', hk⟩ := ih hr
      rw [Nat.add_assoc, Nat.add_comm 1] at hk
      exact ⟨first', hk⟩

end

/-! ## What is asked -/

theorem ofOutcome_prompts (index : Int) (paths : List String) (o : ParseOutcome) :
    (BatchResult.ofOutcome index paths o).prompts = [] := by
  unfold BatchResult.ofOutcome
  split
  · rfl
  · split <;> rfl

theorem ofReply_prompts (index : Int) (paths : List String) (idOf : Nat → String) (first : Nat)
    (reply : Reply) : (BatchResult.ofReply index paths idOf first reply).prompts = [] := by
  cases reply with
  | serviceError | crash => rfl
  | text | nothing =>
    exact Trail.prompts_bind_silent _ fun o => ofOutcome_prompts index paths o

theorem reviewBatch_prompts (idOf : Nat → String) (index : Int) (batch : List SourceUnit)
    (first : Nat) (reply : Reply) :
    (reviewBatch idOf false index batch first (some reply)).prompts = [reviewPrompt batch] := by
  simp only [reviewBatch, Bool.false_eq_true, if_false]
  rw [Trail.prompts_bind_silent _ fun _ => ofReply_prompts _ _ _ _ _]
  rfl

/-- A review that ends has asked once for every batch. -/
theorem reviewFrom_prompts {p : Provider} {index : Nat} {bs : List (List SourceUnit)}
    {rs : List BatchResult} (h : (reviewFrom idOf (some p) index first bs).outcome = .ok rs) :
    (reviewFrom idOf (some p) index first bs).prompts = bs.map reviewPrompt := by
  induction bs generalizing index first rs with
  | nil => rfl
  | cons batch bs ih =>
    simp only [reviewFrom, Option.map_some, Trail.outcome_bind] at h ⊢
    obtain ⟨r, hr, h⟩ := bind_eq_ok.mp h
    obtain ⟨rest, hrest, _⟩ := bind_eq_ok.mp h
    rw [Trail.prompts_bind_of_ok hr, reviewBatch_prompts, Trail.prompts_bind_silent _ fun _ => rfl,
      ih hrest]
    rfl

theorem reviewAll_prompts (stamp : Nat) (p : Provider) (units : List SourceUnit) :
    (reviewAll stamp (some p) false units).prompts =
      (reviewFrom (issueId stamp) (some p) 0 0 (chunks 3 units)).prompts := by
  unfold reviewAll
  rw [Trail.prompts_bind_of_ok (a := ()) rfl, Trail.prompts_bind_of_ok (a := chunks 3 units) rfl,
    Option.isSome_some, if_pos rfl, Trail.prompts_bind_of_ok (a := ()) rfl]
  rfl

/-! ## The review of a set of files -/

/-- What holds of the results of a review of some files. -/
structure Accounts (stamp : Nat) (p : Provider) (units : List SourceUnit)
    (rs : List BatchResult) : Prop where
  /-- There is a result for every batch, with its number. -/
  length : ∀ k, k < rs.length ↔ 3 * k < units.length
  indices : rs.map (·.index) = (List.range rs.length).map Int.ofNat
  /-- Together they have all files in order, -/
  together : rs.flatMap (·.paths) = units.map (·.path)
  batch : ∀ k r, rs[k]? = some r → r.paths = ((units.drop (3 * k)).take 3).map (·.path)
  /-- three each, but for the last one, which has some. -/
  sizes : ∀ k r, rs[k]? = some r →
    r.paths ≠ [] ∧ r.paths.length ≤ 3 ∧ (k + 1 < rs.length → r.paths.length = 3)
  /-- Each is what its files and its reply come to, -/
  answers : ∀ k r, rs[k]? = some r →
    ∃ first, Answers r.paths (issueId stamp) first (p.reply k) r.status r.issues
  failed : ∀ r ∈ rs, r.status ≠ .ok → r.issues = []
  /-- and the ids of all issues are numbered through. -/
  ids : (rs.flatMap (·.issues)).map (·.id) =
    (List.range (rs.flatMap (·.issues)).length).map (issueId stamp)

theorem reviewAll_reviews {stamp : Nat} {p : Provider} {units : List SourceUnit}
    {rs : List BatchResult} (h : (reviewAll stamp (some p) false units).outcome = .ok rs) :
    Reviews (issueId stamp) p 0 0 (chunks 3 units) rs := by
  rw [reviewAll_outcome] at h
  exact reviewFrom_reviews h

theorem Reviews.accounts {stamp : Nat} {p : Provider} {units : List SourceUnit}
    {rs : List BatchResult} (h : Reviews (issueId stamp) p 0 0 (chunks 3 units) rs) :
    Accounts stamp p units rs := by
  have hlength : rs.length = (chunks 3 units).length := by
    simpa using congrArg List.length h.map_paths
  have hbatch (k : Nat) (r : BatchResult) (hr : rs[k]? = some r) :
      3 * k < units.length ∧ r.paths = ((units.drop (3 * k)).take 3).map (·.path) := by
    have hk := congrArg (·[k]?) h.map_paths
    simp only [List.getElem?_map, hr, getElem?_chunks (by decide : 0 < 3), Option.map_some] at hk
    split at hk
    · rename_i hlt
      exact ⟨hlt, Option.some.inj hk⟩
    · cases hk
  constructor
  case length =>
    intro k
    rw [hlength, lt_length_chunks (by decide)]
  case indices =>
    rw [h.indices, hlength, List.range_eq_range']
  case together =>
    rw [List.flatMap_def, h.map_paths, ← List.map_flatten, flatten_chunks (by decide)]
  case batch => exact fun k r hr => (hbatch k r hr).2
  case sizes =>
    intro k r hr
    obtain ⟨hk, hpaths⟩ := hbatch k r hr
    have hcount : r.paths.length = min 3 (units.length - 3 * k) := by
      rw [hpaths, List.length_map, List.length_take, List.length_drop]
    refine ⟨fun hnil => ?_, by omega, fun hnext => ?_⟩
    · rw [hnil, List.length_nil] at hcount
      omega
    · rw [hlength, lt_length_chunks (by decide)] at hnext
      omega
  case answers =>
    intro k r hr
    simpa using h.answers hr
  case failed =>
    intro r hr
    obtain ⟨k, hk⟩ := List.getElem?_of_mem hr
    obtain ⟨_, hanswers⟩ := h.answers hk
    exact hanswers.failed
  case ids =>
    rw [h.ids, idsFrom, List.range_eq_range']

/-- Every issue is about a file that was sent. -/
theorem Accounts.file_mem {stamp : Nat} {p : Provider} {units : List SourceUnit}
    {rs : List BatchResult} (h : Accounts stamp p units rs) :
    ∀ i ∈ rs.flatMap (·.issues), i.file ∈ units.map (·.path) := by
  intro i hi
  obtain ⟨r, hr, hir⟩ := List.mem_flatMap.mp hi
  obtain ⟨k, hk⟩ := List.getElem?_of_mem hr
  obtain ⟨_, hanswers⟩ := h.answers k r hk
  have hfile := hanswers.file_mem (h.sizes k r hk).1 i hir
  rw [← h.together]
  exact List.mem_flatMap.mpr ⟨r, hr, hfile⟩

/-- A review in which every reply is read ends, with the issues of all its batches. -/
theorem reviewAll_ends {p : Provider} {units : List SourceUnit} (stamp : Nat)
    (h : ∀ k, 3 * k < units.length → ¬ StopsBatch (p.reply k)) :
    ∃ rs, (reviewAll stamp (some p) false units).outcome = .ok rs ∧ Accounts stamp p units rs ∧
      (reviewIssues stamp (some p) false units).outcome = .ok (rs.flatMap (·.issues)) := by
  obtain ⟨rs, hrs⟩ := (reviewAll_ok_iff stamp p units).mpr fun k hk =>
    h k ((lt_length_chunks (by decide) units k).mp hk)
  refine ⟨rs, hrs, (reviewAll_reviews hrs).accounts, ?_⟩
  simp only [reviewIssues, Trail.outcome_bind, hrs, ok_bind, Trail.outcome_pure]

/-- **Batches by themselves.** If every reply to a batch is read, a review ends with a result for
every batch, after one call each. What comes of a batch is the same in any other review that sends
these files and gets this reply, but for the numbers in the ids of its issues; those count through
all batches without a gap. -/
theorem reviewAll_accounts (stamp : Nat) (p : Provider) (units : List SourceUnit)
    (h : ∀ k, 3 * k < units.length → ¬ StopsBatch (p.reply k)) :
    ∃ rs, (reviewAll stamp (some p) false units).outcome = .ok rs ∧
      Accounts stamp p units rs ∧
      (reviewAll stamp (some p) false units).prompts =
        (List.range rs.length).map (fun k => reviewPrompt ((units.drop (3 * k)).take 3)) ∧
      (reviewIssues stamp (some p) false units).outcome = .ok (rs.flatMap (·.issues)) ∧
      ∀ (stamp' : Nat) (p' : Provider) (units' : List SourceUnit) (rs' : List BatchResult),
        (reviewAll stamp' (some p') false units').outcome = .ok rs' →
        ∀ k k' r r', rs[k]? = some r → rs'[k']? = some r' →
          (units.drop (3 * k)).take 3 = (units'.drop (3 * k')).take 3 →
          p.reply k = p'.reply k' →
          r.status = r'.status ∧ List.Forall₂ Issue.SameButId r.issues r'.issues := by
  obtain ⟨rs, hrs, haccounts, hissues⟩ := reviewAll_ends stamp h
  refine ⟨rs, hrs, haccounts, ?_, hissues, ?_⟩
  · have hfrom := hrs
    rw [reviewAll_outcome] at hfrom
    have hlength : rs.length = (chunks 3 units).length := by
      simpa using congrArg List.length (reviewAll_reviews hrs).map_paths
    rw [reviewAll_prompts, reviewFrom_prompts hfrom, chunks_eq_map (by decide) units, List.map_map,
      hlength]
    rfl
  · intro stamp' p' units' rs' hrs' k k' r r' hr hr' hbatch hreply
    have haccounts' := (reviewAll_reviews hrs').accounts
    obtain ⟨_, hanswers⟩ := haccounts.answers k r hr
    obtain ⟨_, hanswers'⟩ := haccounts'.answers k' r' hr'
    rw [haccounts.batch k r hr, hbatch, hreply] at hanswers
    rw [haccounts'.batch k' r' hr'] at hanswers'
    exact hanswers.alike hanswers'

/-- Of two batches the first fails, and the issue of the second has the first number. -/
theorem reviewAll_accounts_failed :
    let p : Provider := ⟨"m", "m", fun k =>
      if k = 0 then .serviceError "busy" else .text "[\x7b\x22line\x22: 2\x7d]"⟩
    let units := ["a.js", "b.js", "c.js", "d.js"].map fun path =>
      SourceUnit.mk path "x" .javascript (.bytes 1)
    (∀ k, 3 * k < units.length → ¬ StopsBatch (p.reply k)) ∧
      ∃ rs, (reviewAll 7 (some p) false units).outcome = .ok rs ∧ Accounts 7 p units rs ∧
        rs.map (·.status) = [.serviceError, .ok] ∧
        (rs.flatMap (·.issues)).map (·.id) = ["ai-7-0"] := by
  intro p units
  have hread : ¬ Derails (some "[\x7b\x22line\x22: 2\x7d]") :=
    not_derails_of_isOk (by decide +kernel)
  have h : ∀ k, 3 * k < units.length → ¬ StopsBatch (p.reply k) := by
    rintro k _ ⟨s, hs, hstops⟩
    simp only [p] at hs
    split at hs
    · cases hs
    · exact hread (Reply.text.inj hs ▸ hstops)
  obtain ⟨rs, hrs, haccounts, _⟩ := reviewAll_accounts 7 p units h
  refine ⟨h, rs, hrs, haccounts, ?_⟩
  have hresults : ((reviewAll 7 (some p) false units).outcome.toOption.map fun rs =>
      (rs.map (·.status), (rs.flatMap (·.issues)).map (·.id))) =
        some ([.serviceError, .ok], ["ai-7-0"]) := by
    decide +kernel
  rw [hrs] at hresults
  simpa [Except.toOption] using hresults

end Review

end Assay
