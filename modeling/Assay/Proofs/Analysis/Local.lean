import Assay.CommandLine.Execution
import Assay.Proofs.Analysis.Stages
import Assay.Proofs.Configuration
import Assay.Proofs.Trail
import Assay.Proofs.Tree.Gather
import Assay.Tools

/-!
# Analysing what is at hand

A target that is there is a directory or a file. Without a model its analysis ends in a report, or
in a failure that is told in words, unless it is a file of no known language.

* `FileTree.IsForeign`: a path to such a file;
* `FileTree.IsBare`: a path to a directory without anything to analyse;
* `FileTree.gather_file`: what there is to analyse at the path of a file;
* `Workplace.analyze_gathered`, `Workplace.analyze_failed`: what becomes of it;
* `Workplace.Told`, `Workplace.Escapes`: how the two commands that analyse answer a failure;
* `Workplace.analyze_ends_iff`: an analysis ends as it should exactly unless its target is foreign.
-/

namespace Assay

namespace FileTree

variable {t : FileTree} {root : String}

/-- A path to a file whose name has the extension of no language. -/
def IsForeign (t : FileTree) (path : String) : Prop :=
  ∃ bytes, t.entry path = .ok (.file bytes) ∧ Language.ofPath? (Path.name path) = none

/-- A path to a directory below which nothing is analysed. -/
def IsBare (t : FileTree) (patterns : List String) (limit : Int) (path : String) : Prop :=
  t.entry path = .ok .directory ∧ ∃ place, t.resolve path = .ok place ∧
    ∀ f ∈ t.filesBelow place, Configuration.roleAt patterns limit f ≠ some .analysed

theorem hasPath_iff : t.hasPath root = true ↔ ∃ e, t.entry root = .ok e := by
  unfold hasPath
  cases t.entry root <;> simp [Except.toBool]

theorem resolve_of_entry {e : Entry} (h : t.entry root = .ok e) :
    ∃ place, t.resolve root = .ok place := by
  unfold entry at h
  obtain ⟨place, hplace, _⟩ := bind_eq_ok.mp h
  exact ⟨place, hplace⟩

theorem unit_outcome {bytes : List UInt8} (h : t.entry root = .ok (.file bytes)) :
    t.unit root none = match Language.ofPath? (Path.name root) with
      | some l => .ok (.ofBytes (Path.name root) l bytes)
      | none => .error (.unsupportedFile (Path.name root)) := by
  have hread : t.read root = .ok bytes := by
    rw [read, h]
    rfl
  have hempty : "".isEmpty = true := by decide
  unfold unit Language.ofPath
  simp only [Option.getD_none, hempty, if_true, hread]
  cases Language.ofPath? (Path.name root) <;> rfl

/-- A file stands for itself, if it has a language. -/
theorem gather_file (c : Configuration) {bytes : List UInt8}
    (h : t.entry root = .ok (.file bytes)) :
    (t.gather c root).outcome = match Language.ofPath? (Path.name root) with
      | some l => .ok { units := [.ofBytes (Path.name root) l bytes], origin := Path.normal root }
      | none => .error (.unsupportedFile (Path.name root)) := by
  unfold gather
  simp only [h, Trail.outcome_bind, Trail.outcome_ofExcept, unit_outcome h]
  cases Language.ofPath? (Path.name root) <;> rfl

end FileTree

namespace Workplace

variable {w : Workplace} {c : Configuration} {target : String}

/-! ## Files with and without a report -/

/-- What is there is not looked for elsewhere. -/
theorem load_local (h : w.tree.hasPath target = true) :
    w.load c target = w.tree.gather c target := by
  simp [load, h]

theorem analyze_failed {e : Failure} (h : (w.load c target).outcome = .error e) :
    (w.analyze c target false false).outcome = .error e := by
  unfold analyze
  rw [Trail.outcome_bind, h]
  rfl

theorem analyze_empty {s : SourceSet} (h : (w.load c target).outcome = .ok s)
    (hunits : s.units = []) :
    (w.analyze c target false false).outcome = .error .emptyInput := by
  unfold analyze
  rw [Trail.outcome_bind, h, ok_bind, hunits]
  rfl

/-- If there are files to analyse, there is a report about them. -/
theorem analyze_gathered {s : SourceSet} (h : (w.load c target).outcome = .ok s)
    (hunits : s.units ≠ []) :
    ∃ r issues, (w.analyze c target false false).outcome = .ok ⟨r, s, none⟩ ∧
      r.Describes s.units issues := by
  obtain ⟨r, issues, hr, hdescribes⟩ := Analysis.run_ends w.clock
    ((List.range s.units.length).map fun i => [i]) s.otherPaths hunits
    (Analysis.readable_none s.units)
  rw [← Parallel.inOrder_eq] at hr
  refine ⟨r, issues, ?_, hdescribes⟩
  unfold analyze
  simp only [Trail.outcome_bind, h, ok_bind, List.isEmpty_iff, hunits, if_false,
    Bool.false_eq_true, Trail.outcome_pure, analysisOf, hr]

/-! ## How the commands answer -/

/-- Both commands tell a failure in words. -/
structure Told (w : Workplace) (c : Configuration) (target : String) (e : Failure) : Prop where
  /-- The command line complains and ends with code one. -/
  line : ∀ (o : CommandLine.AnalyzeOptions) (input : List String), o.target = target →
    o.useModel = false → ∃ text, CommandLine.excuse? target e = some text ∧
      .complain (text ++ "\n") ∈ (CommandLine.analyzeTarget w c o input).events ∧
      (CommandLine.analyzeTarget w c o input).outcome = .ok 1
  /-- The tool answers with a text, whatever calls came before. -/
  tool : w.configuration = .ok c → ∀ d : Desk, ∃ text, Desk.excuse? target e = some text ∧
    (d.analyze w target false).text = .ok (some text)

/-- A failure ends both commands. -/
structure Escapes (w : Workplace) (c : Configuration) (target : String) (e : Failure) : Prop where
  line : ∀ (o : CommandLine.AnalyzeOptions) (input : List String), o.target = target →
    o.useModel = false → (CommandLine.analyzeTarget w c o input).outcome = .error e
  tool : w.configuration = .ok c → ∀ d : Desk, (d.analyze w target false).text = .error e

theorem line_excuse_of_isInput (target : String) {e : Failure} (he : e.isInput = true) :
    ∃ text, CommandLine.excuse? target e = some text := by
  cases e <;> first | exact ⟨_, rfl⟩ | cases he

theorem tool_excuse_of_isInput (target : String) {e : Failure} (he : e.isInput = true) :
    ∃ text, Desk.excuse? target e = some text := by
  cases e <;> first | exact ⟨_, rfl⟩ | cases he

/-- The command line ends with code one at a failure that it has words for. -/
theorem analyzeTarget_failed {o : CommandLine.AnalyzeOptions} {e : Failure}
    (hmodel : o.useModel = false)
    (h : (w.analyze c o.target false false).outcome = .error e) (input : List String) :
    (CommandLine.analyzeTarget w c o input).outcome =
      match CommandLine.excuse? o.target e with
      | some _ => .ok 1
      | none => .error e := by
  unfold CommandLine.analyzeTarget
  simp only [hmodel, Trail.outcome_bind, CommandLine.Dialogue.say, Trail.outcome_emit,
    Trail.attempt, h, ok_bind]
  cases CommandLine.excuse? o.target e <;> rfl

/-- The tool answers a failure that it has words for. -/
theorem desk_analyze_failed {e : Failure} (hc : w.configuration = .ok c)
    (h : (w.analyze c target false false).outcome = .error e) (d : Desk) :
    (d.analyze w target false).text =
      match Desk.excuse? target e with
      | some text => .ok (some text)
      | none => .error e := by
  have hafter : ((w.after d.calls).analyze c target false false).outcome = .error e := h
  simp only [Desk.analyze, hc, hafter]
  cases Desk.excuse? target e <;> rfl

theorem told {e : Failure} (h : (w.analyze c target false false).outcome = .error e)
    (he : e.isInput = true) : w.Told c target e := by
  constructor
  case line =>
    rintro o input rfl hmodel
    obtain ⟨text, htext⟩ := line_excuse_of_isInput o.target he
    refine ⟨text, htext, ?_, ?_⟩
    · refine Trail.mem_events_bind rfl (Trail.mem_events_bind rfl ?_)
      simp only [hmodel, h, htext]
      exact List.mem_cons_self
    · rw [analyzeTarget_failed hmodel h, htext]
  case tool =>
    intro hc d
    obtain ⟨text, htext⟩ := tool_excuse_of_isInput target he
    exact ⟨text, htext, by rw [desk_analyze_failed hc h, htext]⟩

theorem escapes {e : Failure} (h : (w.analyze c target false false).outcome = .error e)
    (hline : CommandLine.excuse? target e = none) (htool : Desk.excuse? target e = none) :
    w.Escapes c target e := by
  constructor
  case line =>
    rintro o input rfl hmodel
    rw [analyzeTarget_failed hmodel h, hline]
  case tool =>
    intro hc d
    rw [desk_analyze_failed hc h, htool]

/-! ## Analyses of what is at hand -/

/-- An analysis ends as it should: in a report about some files, or in a failure over its target
that both commands tell in words. -/
inductive EndsWell (w : Workplace) (c : Configuration) (target : String) : Prop
  | report {f : Findings} {issues : List Issue}
      (ends : (w.analyze c target false false).outcome = .ok f) (files : f.source.units ≠ [])
      (describes : f.report.Describes f.source.units issues)
  | excused {e : Failure} (fails : (w.analyze c target false false).outcome = .error e)
      (input : e.isInput = true) (told : w.Told c target e)

section

variable {patterns : List String} {limit : Int}

theorem analyze_foreign (hforeign : w.tree.IsForeign target) :
    (w.analyze c target false false).outcome =
      .error (.unsupportedFile (Path.name target)) := by
  obtain ⟨bytes, hfile, hlanguage⟩ := hforeign
  have hpath : w.tree.hasPath target = true := FileTree.hasPath_iff.mpr ⟨_, hfile⟩
  refine analyze_failed ?_
  rw [load_local hpath, FileTree.gather_file c hfile, hlanguage]

theorem analyze_bare (h : c.Settles patterns limit)
    (hbare : w.tree.IsBare patterns limit target) :
    (w.analyze c target false false).outcome = .error .emptyInput := by
  obtain ⟨hdirectory, place, hplace, hnone⟩ := hbare
  have hpath : w.tree.hasPath target = true := FileTree.hasPath_iff.mpr ⟨_, hdirectory⟩
  obtain ⟨s, hs, hpaths⟩ := FileTree.gather_paths h hdirectory hplace
  refine analyze_empty (by rw [load_local hpath, hs]) ?_
  have hnil : s.paths .analysed = [] := by
    refine List.eq_nil_iff_forall_not_mem.mpr fun p hp => ?_
    obtain ⟨f, hf, hrole, _⟩ := (hpaths .analysed p).mp hp
    exact hnone f hf hrole
  exact List.map_eq_nil_iff.mp hnil

/-- All other targets have a report. -/
theorem analyze_reported (h : c.Settles patterns limit) (hpath : w.tree.hasPath target = true)
    (hforeign : ¬ w.tree.IsForeign target) (hbare : ¬ w.tree.IsBare patterns limit target) :
    ∃ f issues, (w.analyze c target false false).outcome = .ok f ∧ f.source.units ≠ [] ∧
      f.report.Describes f.source.units issues := by
  suffices hload : ∃ s, (w.load c target).outcome = .ok s ∧ s.units ≠ [] by
    obtain ⟨s, hs, hunits⟩ := hload
    obtain ⟨r, issues, hr, hdescribes⟩ := analyze_gathered hs hunits
    exact ⟨⟨r, s, none⟩, issues, hr, hunits, hdescribes⟩
  rw [load_local hpath]
  obtain ⟨entry, hentry⟩ := FileTree.hasPath_iff.mp hpath
  cases entry with
  | file bytes =>
    rw [FileTree.gather_file c hentry]
    cases hlanguage : Language.ofPath? (Path.name target) with
    | none => exact absurd ⟨bytes, hentry, hlanguage⟩ hforeign
    | some l => exact ⟨_, rfl, List.cons_ne_nil _ _⟩
  | directory =>
    obtain ⟨place, hplace⟩ := FileTree.resolve_of_entry hentry
    obtain ⟨s, hs, hpaths⟩ := FileTree.gather_paths h hentry hplace
    refine ⟨s, hs, fun hunits => hbare ⟨hentry, place, hplace, fun f hf hrole => ?_⟩⟩
    have hmem := (hpaths .analysed _).mpr ⟨f, hf, hrole, rfl⟩
    simp [SourceSet.paths, hunits] at hmem

/-- **When the analysis of what is at hand ends as it should.** It does unless its target is a file
of no known language: that it fails over, and the failure ends both commands. It says that there is
nothing to analyse exactly of the directories of which this is true. -/
theorem analyze_ends_iff (h : c.Settles patterns limit) (hpath : w.tree.hasPath target = true) :
    (w.EndsWell c target ↔ ¬ w.tree.IsForeign target) ∧
      ((w.analyze c target false false).outcome = .error .emptyInput ↔
        w.tree.IsBare patterns limit target) ∧
      (w.tree.IsForeign target →
        (w.analyze c target false false).outcome =
          .error (.unsupportedFile (Path.name target)) ∧
        w.Escapes c target (.unsupportedFile (Path.name target))) := by
  refine ⟨⟨fun hends hforeign => ?_, fun hforeign => ?_⟩, ⟨fun hempty => ?_, analyze_bare h⟩,
    fun hforeign => ?_⟩
  · have hfails := analyze_foreign (c := c) hforeign
    cases hends with
    | report ends => cases hfails.symm.trans ends
    | excused fails input =>
      cases hfails.symm.trans fails
      cases input
  · by_cases hbare : w.tree.IsBare patterns limit target
    · have hfails := analyze_bare h hbare
      exact .excused hfails rfl (told hfails rfl)
    · obtain ⟨f, issues, hr, hunits, hdescribes⟩ := analyze_reported h hpath hforeign hbare
      exact .report hr hunits hdescribes
  · by_contra hbare
    by_cases hforeign : w.tree.IsForeign target
    · cases (analyze_foreign hforeign).symm.trans hempty
    · obtain ⟨f, issues, hr, _⟩ := analyze_reported h hpath hforeign hbare
      cases hr.symm.trans hempty
  · have hfails := analyze_foreign (c := c) hforeign
    exact ⟨hfails, escapes hfails rfl rfl⟩

end

/-! ## A file of notes -/

/-- A workplace with some notes and a source file. -/
def withNotes : Workplace :=
  ofTree ⟨[(["README.md"], .file [0x23]), (["src", "a.js"], .file [0x78])]⟩

theorem isForeign_notes : withNotes.tree.IsForeign "README.md" :=
  ⟨[0x23], by decide +kernel, by decide +kernel⟩

theorem settles_default : ({} : Configuration).Settles [] 1048576 :=
  ⟨rfl, rfl⟩

theorem analyze_ends_iff_notes :
    withNotes.EndsWell {} "." ∧ ¬ withNotes.EndsWell {} "README.md" := by
  constructor
  · refine (analyze_ends_iff settles_default (by decide +kernel)).1.mpr ?_
    rintro ⟨bytes, hentry, _⟩
    have hdirectory : withNotes.tree.entry "." = .ok .directory := by decide +kernel
    cases hdirectory.symm.trans hentry
  · exact fun hends =>
      (analyze_ends_iff settles_default (by decide +kernel)).1.mp hends isForeign_notes

/-- The analysis of the notes ends in a failure that neither command has words for. -/
theorem notes_escape :
    withNotes.tree.hasPath "README.md" = true ∧
      (withNotes.analyze {} "README.md" false false).outcome =
        .error (.unsupportedFile "README.md") ∧
      (Failure.unsupportedFile "README.md").isInput = false ∧
      withNotes.Escapes {} "README.md" (.unsupportedFile "README.md") := by
  have hname : Path.name "README.md" = "README.md" := by decide +kernel
  have hfails := analyze_foreign (c := {}) isForeign_notes
  rw [hname] at hfails
  exact ⟨by decide +kernel, hfails, rfl, escapes hfails rfl rfl⟩

end Workplace

end Assay
