import Assay.Detection.Detector
import Assay.Proofs.Outcome
import Assay.Proofs.Pattern.Ending
import Assay.Proofs.Text.LineEnds
import Assay.Proofs.Text.Trim
import Assay.Proofs.Trail
import Assay.Repository.Fetch
import Assay.Tree.Gather

/-!
# Findings and line ends

What is found about security and performance does not depend on how the lines of a file end.

* `Pattern.ignoresReturn`, `Rule.ignoresReturn`: a return at the end of a line makes no difference;
* `Performance.methodCall_withReturns`: nor do returns before newlines to a guard, which looks for
  the call of a method in the whole text;
* `Rule.findings_withReturns`, `Performance.nestedLoops_withReturns`: the searches;
* `Detector.issues_withReturns`: the issues, also of a file that is read in two ways.
-/

namespace Assay

open Text (Returned withReturns)

/-! ## Rules -/

/-- No match ends with a return, and the end of the line is not asked for. -/
def Pattern.ignoresReturn (p : Pattern) : Bool :=
  p.endsOther '\r' false && p.passesEnd

theorem Pattern.occursIn_returned {p : Pattern} (hp : p.ignoresReturn = true)
    {line line' : List Char} (h : Returned line line') : p.occursIn line' = p.occursIn line := by
  obtain ⟨hother, hpasses⟩ := Bool.and_eq_true_iff.mp hp
  rcases h with rfl | rfl
  · rfl
  · exact Pattern.occursIn_concat hother hpasses (by decide) line

namespace Rule

variable {r : Rule}

/-- A return at the end of a line makes no difference to any pattern of the rule. -/
def ignoresReturn (r : Rule) : Bool :=
  r.patterns.all Pattern.ignoresReturn && r.context.all Pattern.ignoresReturn

theorem hits_returned (hr : r.ignoresReturn = true) {line line' : List Char}
    (h : Returned line line') : r.hits line' = r.hits line := by
  obtain ⟨hpatterns, hcontext⟩ := Bool.and_eq_true_iff.mp hr
  have hin : r.inContext line' = r.inContext line := by
    unfold inContext
    cases hc : r.context with
    | none => rfl
    | some p =>
      rw [hc] at hcontext
      exact Pattern.occursIn_returned hcontext h
  have hfound : (r.patterns.filter fun p => p.occursIn line') =
      r.patterns.filter fun p => p.occursIn line := by
    refine List.filter_congr fun p hp => ?_
    exact Pattern.occursIn_returned (List.all_eq_true.mp hpatterns p hp) h
  unfold hits
  rw [hin, hfound]

theorem scanFrom_cons (r : Rule) (first : Nat) (line : List Char) (rest : List (List Char)) :
    r.scanFrom first (line :: rest) =
      (r.hits line).map (fun p => (first, p)) ++ r.scanFrom (first + 1) rest := rfl

theorem scanFrom_returned (hr : r.ignoresReturn = true) {lines lines' : List (List Char)}
    (h : List.Forall₂ Returned lines lines') (first : Nat) :
    r.scanFrom first lines' = r.scanFrom first lines := by
  induction h generalizing first with
  | nil => rfl
  | cons hline _ ih => rw [scanFrom_cons, scanFrom_cons, hits_returned hr hline, ih]

end Rule

/-! ## Guards -/

namespace Performance

open Pattern (occursIn_iff takes_append_iff takes_lit_iff)

/-- The call of a method is its name and an opening parenthesis, with blanks between them. -/
theorem methodCall_occursIn_iff {name : String} {s : List Char} :
    (methodCall name).occursIn s = true ↔
      ∃ a b c, s = a ++ name.toList ++ b ++ '(' :: c ∧ ∀ x ∈ b, Text.isBlank x = true := by
  rw [occursIn_iff]
  constructor
  · rintro ⟨a, w, r, rfl, h⟩
    obtain ⟨u, v, rfl, hu, hv⟩ := takes_append_iff.mp h
    obtain ⟨n, b, rfl, hn, hb⟩ := takes_append_iff.mp hu
    rw [takes_lit_iff.mp hn, takes_lit_iff.mp hv]
    exact ⟨a, b, r, by simp, hb.2⟩
  · rintro ⟨a, b, c, rfl, hb⟩
    refine ⟨a, name.toList ++ b ++ ['('], c, by simp, ?_⟩
    refine takes_append_iff.mpr ⟨name.toList ++ b, ['('], rfl, ?_, takes_lit_iff.mpr rfl⟩
    exact takes_append_iff.mpr ⟨name.toList, b, rfl, takes_lit_iff.mpr rfl, Nat.zero_le _, hb⟩

/-- Returns before newlines are blanks before blanks. -/
theorem methodCall_withReturns {name : String} (hnewline : '\n' ∉ name.toList)
    (hreturn : '\r' ∉ name.toList) {s : List Char} (hs : '\r' ∉ s) :
    (methodCall name).occursIn (withReturns s) = (methodCall name).occursIn s := by
  rw [Bool.eq_iff_iff, methodCall_occursIn_iff, methodCall_occursIn_iff]
  constructor
  · rintro ⟨a, b, c, hcut, hb⟩
    have hback := congrArg (List.filter (· != '\r')) hcut
    have hname : name.toList.filter (· != '\r') = name.toList := by
      refine List.filter_eq_self.mpr fun x hx => bne_iff_ne.mpr ?_
      rintro rfl
      exact hreturn hx
    rw [Text.filter_withReturns hs, List.filter_append, List.filter_append, List.filter_append,
      hname, List.filter_cons_of_pos (by decide)] at hback
    exact ⟨_, _, _, hback, fun x hx => hb x (List.mem_of_mem_filter hx)⟩
  · rintro ⟨a, b, c, rfl, hb⟩
    refine ⟨withReturns a, withReturns b, withReturns c, ?_, Text.isBlank_of_mem_withReturns hb⟩
    rw [Text.withReturns_append, Text.withReturns_append, Text.withReturns_append,
      Text.withReturns_eq_self hnewline, Text.withReturns_cons (by decide)]

end Performance

namespace Rule

/-- If the rule has a guard, it looks for the call of a method whose name stands in one line. -/
def GuardedByCall (r : Rule) : Prop :=
  ∀ p ∈ r.guard, ∃ name : String, p = Performance.methodCall name ∧
    '\n' ∉ name.toList ∧ '\r' ∉ name.toList

theorem silencedBy_withReturns {r : Rule} (hr : r.GuardedByCall) {s : List Char} (hs : '\r' ∉ s) :
    r.silencedBy (withReturns s) = r.silencedBy s := by
  unfold silencedBy
  cases hguard : r.guard with
  | none => rfl
  | some p =>
    obtain ⟨name, rfl, hnewline, hreturn⟩ := hr p hguard
    exact Performance.methodCall_withReturns hnewline hreturn hs

theorem findings_withReturns {r : Rule} (hignores : r.ignoresReturn = true)
    (hguard : r.GuardedByCall) {s : List Char} (hs : '\r' ∉ s) :
    r.findings (withReturns s) = r.findings s := by
  unfold findings scan
  rw [silencedBy_withReturns hguard hs, scanFrom_returned hignores (Text.lines_withReturns s)]

theorem findingsOfAll_withReturns {rules : List Rule}
    (hrules : ∀ r ∈ rules, r.ignoresReturn = true ∧ r.GuardedByCall) {s : List Char}
    (hs : '\r' ∉ s) : findingsOfAll rules (withReturns s) = findingsOfAll rules s := by
  refine List.flatMap_congr fun r hr => ?_
  obtain ⟨hignores, hguard⟩ := hrules r hr
  exact findings_withReturns hignores hguard hs

end Rule

/-! ## Nested loops -/

/-- A return is one of the blanks around a line. -/
theorem Text.strip_returned {line line' : List Char} (h : Returned line line') :
    strip line' = strip line := by
  rcases h with rfl | rfl
  · rfl
  · obtain ⟨⟨before, after, hcut, hbefore, hafter⟩, hfirst, hlast⟩ := trims_strip line
    refine Trims.strip_eq ⟨⟨before, after ++ ['\r'], ?_, hbefore, ?_⟩, hfirst, hlast⟩
    · rw [← List.append_assoc, ← hcut]
    · intro c hc
      rcases List.mem_append.mp hc with hc | hc
      · exact hafter c hc
      · rw [List.mem_singleton.mp hc]
        rfl

namespace Performance

theorem loop_ignoresReturn : loop.ignoresReturn = true := by
  decide

theorem enter_returned (s : Loops) (n : Nat) {line line' : List Char} (h : Returned line line') :
    enter s n line' = enter s n line := by
  rw [enter, enter, Pattern.occursIn_returned loop_ignoresReturn h]

theorem leave_returned (s : Loops) {line line' : List Char} (h : Returned line line') :
    leave s line' = leave s line := by
  rw [leave, leave, isClosing, isClosing, Text.strip_returned h]

theorem loopsFrom_returned {lines lines' : List (List Char)}
    (h : List.Forall₂ Returned lines lines') (s : Loops) (n : Nat) :
    loopsFrom s n lines' = loopsFrom s n lines := by
  induction h generalizing s n with
  | nil => rfl
  | cons hline _ ih =>
    rw [loopsFrom, loopsFrom, Pattern.occursIn_returned loop_ignoresReturn hline,
      enter_returned s n hline, leave_returned _ hline, ih]

theorem nestedLoops_withReturns (s : List Char) :
    nestedLoops (withReturns s) = nestedLoops s :=
  loopsFrom_returned (Text.lines_withReturns s) .none 1

end Performance

/-! ## The tables -/

theorem Security.rules_ignoreReturn :
    ∀ r ∈ Security.rules, r.ignoresReturn = true ∧ r.GuardedByCall := by
  have hignores : ∀ r ∈ rules, r.ignoresReturn = true := by decide
  have hguard : ∀ r ∈ rules, r.guard = none := by decide
  intro r hr
  refine ⟨hignores r hr, fun p hp => ?_⟩
  rw [hguard r hr] at hp
  cases hp

theorem Performance.rules_ignoreReturn :
    ∀ r ∈ Performance.rules, r.ignoresReturn = true ∧ r.GuardedByCall := by
  have hignores : ∀ r ∈ rules, r.ignoresReturn = true := by decide
  have hguard : ∀ r ∈ rules, r.guard = none ∨
      r.guard = some (methodCall "removeEventListener") ∨
      r.guard = some (methodCall "clearInterval") := by decide
  intro r hr
  refine ⟨hignores r hr, fun p hp => ?_⟩
  rcases hguard r hr with hnone | hlistener | htimer
  · rw [hnone] at hp
    cases hp
  · rw [hlistener] at hp
    obtain rfl := Option.some.inj hp
    exact ⟨_, rfl, by decide, by decide⟩
  · rw [htimer] at hp
    obtain rfl := Option.some.inj hp
    exact ⟨_, rfl, by decide, by decide⟩

/-! ## Files -/

/-- A body in UTF-8 is read as it is. -/
theorem Web.Response.text_of_utf8 {r : Response} (h : r.charset = .ok .utf8) :
    r.text = .ok (String.ofList (Text.decode r.body)) := by
  unfold text
  by_cases hempty : r.body = []
  · have hnothing : Text.decode [] = [] := by
      rw [Text.decode, Text.Encoding.lenient, Text.Encoding.lenientFrom]
      rfl
    rw [hempty, hnothing]
    rfl
  · rw [if_neg (by simpa using hempty), h]
    rfl

theorem RepositoryName.download_of_utf8 {c : Web.Connection} {url : String} {r : Web.Response}
    (hr : (c.file url).outcome = .ok r) (hstatus : r.status = 200)
    (hcharset : r.charset = .ok .utf8) :
    (download c (.str url)).outcome = .ok (String.ofList (Text.decode r.body)) := by
  simp only [download, Trail.outcome_bind, hr, ok_bind, hstatus, if_true, Trail.outcome_ofExcept,
    Web.Response.text_of_utf8 hcharset]

namespace Detector

theorem issues_eq_of_text {d : Detector} (hd : d = .security ∨ d = .performance) {s : List Char}
    (hs : '\r' ∉ s) {u v : SourceUnit} (hpath : v.path = u.path) (hu : u.text = s)
    (hv : v.text = withReturns s) : d.issues v = d.issues u := by
  have hfindings : d.findings v = d.findings u := by
    rcases hd with rfl | rfl
    · unfold findings
      dsimp only
      rw [hu, hv, Rule.findingsOfAll_withReturns Security.rules_ignoreReturn hs]
    · unfold findings
      dsimp only
      rw [hu, hv, Rule.findingsOfAll_withReturns Performance.rules_ignoreReturn hs,
        Performance.nestedLoops_withReturns]
  rw [issues, issues, hfindings, hpath]

/-- **Line ends do not change what is found about security and performance.** A file and the same
file with returns before its newlines have the same issues. So have the bytes of a file with returns
when they are downloaded, which leaves them as they are, and when they are read from a tree, where
line ends become newlines. -/
theorem issues_withReturns {d : Detector} (hd : d = .security ∨ d = .performance) {s : List Char}
    (hs : '\r' ∉ s) :
    (∀ u v : SourceUnit, v.path = u.path → u.text = s → v.text = withReturns s →
        d.issues v = d.issues u) ∧
      ∀ (c : Web.Connection) (url : String) (r : Web.Response) (l : Language),
        (c.file url).outcome = .ok r → r.status = 200 → r.charset = .ok .utf8 →
        Text.decode r.body = withReturns s →
        ∃ content, (RepositoryName.download c (.str url)).outcome = .ok content ∧
          ∀ u : SourceUnit, u.content = content →
            d.issues u = d.issues (.ofBytes u.path l r.body) := by
  constructor
  · intro u v hpath hu hv
    exact issues_eq_of_text hd hs hpath hu hv
  · intro c url r l hr hstatus hcharset hbody
    refine ⟨_, RepositoryName.download_of_utf8 hr hstatus hcharset, ?_⟩
    intro u hu
    have hraw : u.text = withReturns s := by
      rw [SourceUnit.text, hu, String.toList_ofList, hbody]
    have hread : (SourceUnit.ofBytes u.path l r.body).text = s := by
      rw [SourceUnit.text, SourceUnit.ofBytes, String.toList_ofList, hbody,
        Text.unifyNewlines_withReturns hs]
    exact issues_eq_of_text hd hs rfl hread hraw

/-- A call of `eval` in the first of two lines. -/
def twoLines (lineEnd : String) : SourceUnit :=
  ⟨"a.js", "eval(x)" ++ lineEnd ++ "y()", .javascript, .unstated⟩

/-- A server that has the lines with a return between them. -/
def returningServer : Web.Connection where
  answer _ := .message ⟨200, [], "eval(x)\r\ny()"⟩
  token := none

theorem issues_withReturns_twoLines :
    let url := "https://raw.githubusercontent.com/o/r/main/a.js"
    let r : Web.Response := ⟨200, [], "eval(x)\r\ny()".toUTF8.toList⟩
    '\r' ∉ "eval(x)\ny()".toList ∧
      security.issues (twoLines "\r\n") = security.issues (twoLines "\n") ∧
      (security.issues (twoLines "\n")).map (·.line) = [some 1] ∧
      (returningServer.file url).outcome = .ok r ∧
      ∃ content, (RepositoryName.download returningServer (.str url)).outcome = .ok content ∧
        ∀ u : SourceUnit, u.content = content →
          security.issues u = security.issues (.ofBytes u.path .javascript r.body) := by
  intro url r
  have hs : '\r' ∉ "eval(x)\ny()".toList := by decide
  have hserved : (returningServer.file url).outcome = .ok r := by decide +kernel
  obtain ⟨hunits, hread⟩ := issues_withReturns (.inl rfl) hs
  refine ⟨hs, hunits _ _ rfl (by decide) (by decide), by decide +kernel, hserved, ?_⟩
  exact hread _ url r .javascript hserved rfl rfl (by decide +kernel)

end Detector

end Assay
