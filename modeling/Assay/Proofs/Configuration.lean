import Assay.CommandLine.Execution
import Assay.Proofs.Outcome

/-!
# Which settings are taken

A document should be read as settings that an analysis can work with, or be refused in words. Some
documents end the reading in another failure, and some are taken that should not be.

* `Configuration.IsSound`: the settings are of the kinds and in the ranges that they should be;
* `Configuration.Mishap`: a document ends the reading in a failure that is no refusal;
* `Configuration.Laxity`: a table is taken whose settings are not sound;
* `Configuration.ofDocument_error_iff`, `Configuration.ofDocument_unsound_iff`: these are all the
  documents that do so;
* `Workplace.settings_end_iff`: when the settings of a file are sound, or refused in words.
-/

namespace Assay

namespace Yaml

/-- An integer from one on; a value that is true counts as one. -/
def IsCount (v : Yaml) : Prop :=
  v = .bool true ∨ ∃ n : Int, v = .int n ∧ 1 ≤ n

/-- A list of texts. -/
def IsTexts (v : Yaml) : Prop :=
  ∃ texts : List String, v = .seq (texts.map .str)

/-- A value that no integer is made of, although it is no refused text. -/
inductive Unconvertible : Yaml → Failure → Prop
  | infinite (negative : Bool) : Unconvertible (.real (.infinite negative)) (.number .infinite)
  /-- Neither a number nor a text. -/
  | kind {v : Yaml} (hnumber : v.number? = none) (htext : ∀ s, v ≠ .str s) :
      Unconvertible v (.wrongType (.notNumeric v.kindName))

theorem Unconvertible.isValue {v : Yaml} {e : Failure} (h : v.Unconvertible e) :
    e.isValue = false := by
  cases h <;> rfl

end Yaml

namespace Configuration

open Yaml (entryOr)

/-- The settings are of the kinds and in the ranges that they should be. -/
structure IsSound (c : Configuration) : Prop where
  provider : c.provider ∈ providerNames
  concurrency : 1 ≤ c.concurrency
  aiConcurrency : 1 ≤ c.aiConcurrency
  maxSessions : c.maxSessions.IsCount
  evictCount : c.evictCount.IsCount
  excludePatterns : c.excludePatterns.IsTexts

theorem isSound_default : ({} : Configuration).IsSound where
  provider := by decide
  concurrency := by decide
  aiConcurrency := by decide
  maxSessions := .inr ⟨100, rfl, by decide⟩
  evictCount := .inr ⟨50, rfl, by decide⟩
  excludePatterns := ⟨[], rfl⟩

/-! ## Single values -/

section

variable {v : Yaml} {e : Failure} {n : Int}

theorem readInt_isValue {s : String} {f : NumberFault} (h : Text.readInt s = .error f) :
    (Failure.number f).isValue = true := by
  unfold Text.readInt at h
  dsimp only at h
  split at h
  · cases h
    rfl
  · split at h
    · cases h
      rfl
    · split at h
      · cases h
        rfl
      · cases h

theorem toInteger_error_iff (he : e.isValue = false) :
    toInteger v = .error e ↔ v.Unconvertible e := by
  constructor
  · intro h
    cases v with
    | int _ | bool _ => cases h
    | real x =>
      cases x with
      | infinite negative =>
        cases h
        exact .infinite negative
      | undefined =>
        cases h
        cases he
      | _ => cases h
    | str s =>
      rw [toInteger] at h
      cases hread : Text.readInt s with
      | ok _ =>
        rw [hread] at h
        cases h
      | error f =>
        rw [hread] at h
        cases h
        rw [readInt_isValue hread] at he
        cases he
    | _ =>
      cases h
      exact .kind rfl nofun
  · intro h
    cases h with
    | infinite => rfl
    | kind hnumber htext =>
      cases v with
      | str s => exact absurd rfl (htext s)
      | bool _ | int _ | real _ => cases hnumber
      | _ => rfl

theorem isBelow_error_iff : isBelow v n = .error e ↔
    v.number? = none ∧ e = .wrongType (.unordered "<" v.kindName "int") := by
  unfold isBelow
  cases v.number? with
  | none => simp [eq_comm]
  | some x => simp

theorem isBelow_int (m n : Int) : isBelow (.int m) n = .ok (decide (m < n)) := by
  simp only [isBelow, Yaml.number?, FloatValue.isLess, FloatValue.asNumber, Rat.intCast_lt_intCast]

/-- A number that is not below one is a count unless it is written with a fraction. -/
theorem isCount_iff : v.IsCount ↔ isBelow v 1 = .ok false ∧ ∀ x, v ≠ .real x := by
  constructor
  · rintro (rfl | ⟨n, rfl, hn⟩)
    · exact ⟨by decide +kernel, nofun⟩
    · exact ⟨by simpa [isBelow_int] using hn, nofun⟩
  · rintro ⟨hbelow, hreal⟩
    cases v with
    | bool b =>
      cases b with
      | true => exact .inl rfl
      | false =>
        have hzero : isBelow (.bool false) 1 = .ok true := by decide +kernel
        cases hzero.symm.trans hbelow
    | int n => exact .inr ⟨n, rfl, by simpa [isBelow_int] using hbelow⟩
    | real x => exact absurd rfl (hreal x)
    | _ => cases hbelow

end

/-! ## Tables -/

/-- The limits of a store of sessions cannot be checked. -/
inductive SessionsFault (entries : List (Yaml × Yaml)) : Failure → Prop
  /-- They stand in no table. -/
  | table {v : Yaml} (hsessions : entryOr entries "sessions" (.map []) = v)
      (h : ∀ fields, v ≠ .map fields) : SessionsFault entries (.missingMember v.kindName "get")
  | maxSessions {fields : List (Yaml × Yaml)} {v : Yaml}
      (hsessions : entryOr entries "sessions" (.map []) = .map fields)
      (hmost : entryOr fields "max_sessions" (.int 100) = v) (h : v.number? = none) :
      SessionsFault entries (.wrongType (.unordered "<" v.kindName "int"))
  | evictCount {fields : List (Yaml × Yaml)} {v : Yaml}
      (hsessions : entryOr entries "sessions" (.map []) = .map fields)
      (hmost : isBelow (entryOr fields "max_sessions" (.int 100)) 1 = .ok false)
      (hevict : entryOr fields "evict_count" (.int 50) = v) (h : v.number? = none) :
      SessionsFault entries (.wrongType (.unordered "<" v.kindName "int"))

/-- A table names a provider and numbers of workers. -/
structure IsStaffed (entries : List (Yaml × Yaml)) : Prop where
  provider : ∃ name, providerOf entries = .ok name
  concurrency : ∃ n, toInteger (entryOr entries "concurrency" (.int 8)) = .ok n ∧ 1 ≤ n
  aiConcurrency : ∃ n, toInteger (entryOr entries "ai_concurrency" (.int 2)) = .ok n ∧ 1 ≤ n

/-- The reading of a table ends in a failure that is no refusal, having taken all that comes
before. -/
inductive TableMishap (entries : List (Yaml × Yaml)) : Failure → Prop
  | concurrency {e : Failure} (hprovider : ∃ name, providerOf entries = .ok name)
      (h : (entryOr entries "concurrency" (.int 8)).Unconvertible e) : TableMishap entries e
  | aiConcurrency {e : Failure} (hprovider : ∃ name, providerOf entries = .ok name)
      (hconcurrency : ∃ n, toInteger (entryOr entries "concurrency" (.int 8)) = .ok n)
      (h : (entryOr entries "ai_concurrency" (.int 2)).Unconvertible e) : TableMishap entries e
  | sessions {e : Failure} (hstaffed : IsStaffed entries) (h : SessionsFault entries e) :
      TableMishap entries e

/-- A table is taken whose settings are not sound. -/
inductive Laxity (entries : List (Yaml × Yaml)) : Prop
  /-- The number of sessions is no integer. -/
  | maxSessions {x : FloatValue} {evict : Yaml} (hstaffed : IsStaffed entries)
      (hlimits : sessionLimitsOf entries = .ok (.real x, evict)) : Laxity entries
  | evictCount {most : Yaml} {x : FloatValue} (hstaffed : IsStaffed entries)
      (hlimits : sessionLimitsOf entries = .ok (most, .real x)) : Laxity entries
  /-- What is to be left out is no list of texts. -/
  | exclude {most evict : Yaml} (hstaffed : IsStaffed entries)
      (hlimits : sessionLimitsOf entries = .ok (most, evict))
      (h : ¬ (entryOr entries "exclude" (.seq [])).IsTexts) : Laxity entries

section

variable {entries : List (Yaml × Yaml)} {e : Failure} {c : Configuration}

theorem providerOf_isValue (h : providerOf entries = .error e) : e.isValue = true := by
  unfold providerOf at h
  dsimp only at h
  split at h
  · cases h
    rfl
  · split at h
    · cases h
    · cases h
      rfl

theorem providerOf_mem {name : String} (h : providerOf entries = .ok name) :
    name ∈ providerNames := by
  unfold providerOf at h
  dsimp only at h
  split at h
  · cases h
  · split at h
    · rename_i hmem
      cases h
      exact List.contains_iff_mem.mp hmem
    · cases h

theorem entriesOf_error_iff {v : Yaml} : entriesOf v = .error e ↔
    (∀ fields, v ≠ .map fields) ∧ e = .missingMember v.kindName "get" := by
  cases v <;> simp [entriesOf, eq_comm]

theorem entriesOf_ok_iff {v : Yaml} {fields : List (Yaml × Yaml)} :
    entriesOf v = .ok fields ↔ v = .map fields := by
  cases v <;> simp [entriesOf]

/-- Both limits are checked, and neither is below one. -/
theorem sessionLimitsOf_ok_iff {most evict : Yaml} :
    sessionLimitsOf entries = .ok (most, evict) ↔
      ∃ fields, entryOr entries "sessions" (.map []) = .map fields ∧
        entryOr fields "max_sessions" (.int 100) = most ∧
        entryOr fields "evict_count" (.int 50) = evict ∧
        isBelow most 1 = .ok false ∧ isBelow evict 1 = .ok false := by
  simp only [sessionLimitsOf, bind_eq_ok, entriesOf_ok_iff, guard_eq_ok, Bool.not_eq_true]
  constructor
  · rintro ⟨fields, hsessions, _, hmost, rfl, _, hevict, rfl, hpair⟩
    cases hpair
    exact ⟨fields, hsessions, rfl, rfl, hmost, hevict⟩
  · rintro ⟨fields, hsessions, rfl, rfl, hmost, hevict⟩
    exact ⟨fields, hsessions, false, hmost, rfl, false, hevict, rfl, rfl⟩

theorem sessionLimitsOf_error_iff (he : e.isValue = false) :
    sessionLimitsOf entries = .error e ↔ SessionsFault entries e := by
  have hlow : Failure.sessionLimitsTooLow ≠ e := by
    rintro rfl
    cases he
  simp only [sessionLimitsOf, bind_eq_error, entriesOf_error_iff, entriesOf_ok_iff,
    guard_eq_error, isBelow_error_iff, hlow, and_false, false_or, Bool.not_eq_true]
  constructor
  · rintro (⟨hsessions, rfl⟩ | ⟨fields, hsessions, ⟨hmost, rfl⟩ | ⟨_, hmost, rfl,
      ⟨hevict, rfl⟩ | ⟨_, _, _, hpair⟩⟩⟩)
    · exact .table rfl hsessions
    · exact .maxSessions hsessions rfl hmost
    · exact .evictCount hsessions hmost rfl hevict
    · cases hpair
  · rintro (⟨rfl, hsessions⟩ | ⟨hsessions, rfl, hmost⟩ | ⟨hsessions, hmost, rfl, hevict⟩)
    · exact .inl ⟨hsessions, rfl⟩
    · exact .inr ⟨_, hsessions, .inl ⟨hmost, rfl⟩⟩
    · exact .inr ⟨_, hsessions, .inr ⟨false, hmost, rfl, .inl ⟨hevict, rfl⟩⟩⟩

theorem ofEntries_error_iff (he : e.isValue = false) :
    ofEntries entries = .error e ↔ TableMishap entries e := by
  -- An unknown provider and too few workers are refused, so `e` is no failure over them.
  have hprovider : providerOf entries ≠ .error e := fun h => by
    rw [providerOf_isValue h] at he
    cases he
  have hfew : Failure.workersTooFew ≠ e := by
    rintro rfl
    cases he
  simp only [ofEntries, bind_eq_error, guard_eq_error, hprovider, hfew, and_false, false_or,
    toInteger_error_iff he, sessionLimitsOf_error_iff he]
  constructor
  · rintro ⟨name, hname, hc | ⟨m, hm, ha | ⟨n, hn, hworkers, hsessions | ⟨_, _, hpair⟩⟩⟩⟩
    · exact .concurrency ⟨name, hname⟩ hc
    · exact .aiConcurrency ⟨name, hname⟩ ⟨m, hm⟩ ha
    · exact .sessions ⟨⟨name, hname⟩, ⟨m, hm, by omega⟩, ⟨n, hn, by omega⟩⟩ hsessions
    · cases hpair
  · rintro (⟨⟨name, hname⟩, hc⟩ | ⟨⟨name, hname⟩, ⟨m, hm⟩, ha⟩ |
      ⟨⟨⟨name, hname⟩, ⟨m, hm, hone⟩, ⟨n, hn, hone'⟩⟩, hsessions⟩)
    · exact ⟨name, hname, .inl hc⟩
    · exact ⟨name, hname, .inr ⟨m, hm, .inl ha⟩⟩
    · exact ⟨name, hname, .inr ⟨m, hm, .inr ⟨n, hn, by omega, .inl hsessions⟩⟩⟩

/-- What is checked of the settings that a table is taken for. -/
structure Takes (entries : List (Yaml × Yaml)) (c : Configuration) : Prop where
  staffed : IsStaffed entries
  provider : c.provider ∈ providerNames
  concurrency : 1 ≤ c.concurrency
  aiConcurrency : 1 ≤ c.aiConcurrency
  limits : sessionLimitsOf entries = .ok (c.maxSessions, c.evictCount)
  excludePatterns : c.excludePatterns = entryOr entries "exclude" (.seq [])

theorem takes_of_ok (h : ofEntries entries = .ok c) : Takes entries c := by
  simp only [ofEntries, bind_eq_ok, guard_eq_ok] at h
  obtain ⟨name, hname, m, hm, n, hn, hworkers, ⟨most, evict⟩, hlimits, hc⟩ := h
  have hone : 1 ≤ m ∧ 1 ≤ n := by omega
  cases hc
  exact {
    staffed := ⟨⟨name, hname⟩, ⟨m, hm, hone.1⟩, ⟨n, hn, hone.2⟩⟩
    provider := providerOf_mem hname
    concurrency := hone.1
    aiConcurrency := hone.2
    limits := hlimits
    excludePatterns := rfl }

theorem exists_takes {most evict : Yaml} (h : IsStaffed entries)
    (hlimits : sessionLimitsOf entries = .ok (most, evict)) :
    ∃ c, ofEntries entries = .ok c ∧ c.maxSessions = most ∧ c.evictCount = evict ∧
      c.excludePatterns = entryOr entries "exclude" (.seq []) := by
  obtain ⟨⟨name, hname⟩, ⟨m, hm, hone⟩, ⟨n, hn, hone'⟩⟩ := h
  have hworkers : ¬ (m < 1 ∨ n < 1) := by omega
  simp only [ofEntries, hname, hm, hn, ok_bind, if_neg hworkers, hlimits]
  exact ⟨_, rfl, rfl, rfl, rfl⟩

/-- Settings that are taken are sound but for three of them. -/
theorem Takes.isSound_iff (h : Takes entries c) : c.IsSound ↔
    (∀ x, c.maxSessions ≠ .real x) ∧ (∀ x, c.evictCount ≠ .real x) ∧ c.excludePatterns.IsTexts := by
  obtain ⟨_, _, _, _, hmost, hevict⟩ := sessionLimitsOf_ok_iff.mp h.limits
  constructor
  · intro hsound
    exact ⟨(isCount_iff.mp hsound.maxSessions).2, (isCount_iff.mp hsound.evictCount).2,
      hsound.excludePatterns⟩
  · rintro ⟨hmostReal, hevictReal, htexts⟩
    exact ⟨h.provider, h.concurrency, h.aiConcurrency, isCount_iff.mpr ⟨hmost, hmostReal⟩,
      isCount_iff.mpr ⟨hevict, hevictReal⟩, htexts⟩

theorem ofEntries_unsound_iff :
    (∃ c, ofEntries entries = .ok c ∧ ¬ c.IsSound) ↔ Laxity entries := by
  constructor
  · rintro ⟨c, hc, hsound⟩
    have htakes := takes_of_ok hc
    refine Classical.byContradiction fun hlax => hsound (htakes.isSound_iff.mpr ⟨?_, ?_, ?_⟩)
    · exact fun x hx => hlax (.maxSessions htakes.staffed (hx ▸ htakes.limits))
    · exact fun x hx => hlax (.evictCount htakes.staffed (hx ▸ htakes.limits))
    · refine Classical.byContradiction fun htexts => hlax (.exclude htakes.staffed htakes.limits ?_)
      rwa [← htakes.excludePatterns]
  · intro h
    cases h with
    | maxSessions hstaffed hlimits =>
      obtain ⟨c, hc, hmost, _⟩ := exists_takes hstaffed hlimits
      exact ⟨c, hc, fun hsound => ((takes_of_ok hc).isSound_iff.mp hsound).1 _ hmost⟩
    | evictCount hstaffed hlimits =>
      obtain ⟨c, hc, _, hevict, _⟩ := exists_takes hstaffed hlimits
      exact ⟨c, hc, fun hsound => ((takes_of_ok hc).isSound_iff.mp hsound).2.1 _ hevict⟩
    | exclude hstaffed hlimits htexts =>
      obtain ⟨c, hc, _, _, hexclude⟩ := exists_takes hstaffed hlimits
      exact ⟨c, hc, fun hsound => htexts (hexclude ▸ hsound.excludePatterns)⟩

end

/-! ## Documents -/

/-- The reading of a document ends in a failure that is no refusal. -/
inductive Mishap : Yaml → Failure → Prop
  /-- The document is no table, and not empty in any way. -/
  | document {d : Yaml} (htruthy : d.isTruthy = true) (h : ∀ entries, d ≠ .map entries) :
      Mishap d (.missingMember d.kindName "get")
  | table {entries : List (Yaml × Yaml)} {e : Failure} (h : TableMishap entries e) :
      Mishap (.map entries) e

section

variable {d : Yaml} {e : Failure}

theorem ofDocument_map (entries : List (Yaml × Yaml)) :
    ofDocument (.map entries) = ofEntries entries := by
  cases entries <;> rfl

/-- A document that is empty in any way leaves the defaults. -/
theorem ofDocument_empty (h : d.isTruthy = false) : ofDocument d = .ok {} := by
  have hprovider : providerOf [] = .ok "gemini" := by decide +kernel
  have hlimits : sessionLimitsOf [] = .ok (.int 100, .int 50) :=
    sessionLimitsOf_ok_iff.mpr
      ⟨[], rfl, rfl, rfl, (isCount_iff.mp isSound_default.maxSessions).1,
        (isCount_iff.mp isSound_default.evictCount).1⟩
  simp only [ofDocument, h, Bool.false_eq_true, if_false, entriesOf, ok_bind, ofEntries, hprovider,
    hlimits]
  rfl

theorem ofDocument_other (htruthy : d.isTruthy = true) (h : ∀ entries, d ≠ .map entries) :
    ofDocument d = .error (.missingMember d.kindName "get") := by
  simp only [ofDocument, htruthy, if_true, entriesOf_error_iff.mpr ⟨h, rfl⟩]
  rfl

/-- A document is a table, or empty, or neither. -/
theorem ofDocument_cases (d : Yaml) : (∃ entries, d = .map entries) ∨
    (∀ entries, d ≠ .map entries) ∧ (d.isTruthy = false ∨ d.isTruthy = true) := by
  cases d with
  | map entries => exact .inl ⟨entries, rfl⟩
  | _ => exact .inr ⟨nofun, by simp⟩

theorem ofDocument_error_iff (he : e.isValue = false) :
    ofDocument d = .error e ↔ Mishap d e := by
  rcases ofDocument_cases d with ⟨entries, rfl⟩ | ⟨hmap, hempty | htruthy⟩
  · rw [ofDocument_map, ofEntries_error_iff he]
    constructor
    · exact .table
    · rintro (⟨_, hmap⟩ | h)
      · exact absurd rfl (hmap entries)
      · exact h
  · rw [ofDocument_empty hempty]
    refine iff_of_false nofun ?_
    rintro (⟨htruthy, _⟩ | _)
    · cases hempty.symm.trans htruthy
    · exact hmap _ rfl
  · rw [ofDocument_other htruthy hmap]
    constructor
    · rintro ⟨⟩
      exact .document htruthy hmap
    · rintro (_ | _)
      · rfl
      · exact absurd rfl (hmap _)

theorem ofDocument_unsound_iff : (∃ c, ofDocument d = .ok c ∧ ¬ c.IsSound) ↔
    ∃ entries, d = .map entries ∧ Laxity entries := by
  rcases ofDocument_cases d with ⟨entries, rfl⟩ | ⟨hmap, hempty | htruthy⟩
  · rw [ofDocument_map, ofEntries_unsound_iff]
    simp
  · rw [ofDocument_empty hempty]
    refine iff_of_false ?_ fun ⟨entries, h, _⟩ => hmap entries h
    rintro ⟨c, hc, hsound⟩
    cases hc
    exact hsound isSound_default
  · rw [ofDocument_other htruthy hmap]
    exact iff_of_false (fun ⟨_, hc, _⟩ => nomatch hc) fun ⟨entries, h, _⟩ => hmap entries h

theorem Mishap.isValue (h : Mishap d e) : e.isValue = false := by
  cases h with
  | document => rfl
  | table h =>
    cases h with
    | concurrency _ h | aiConcurrency _ _ h => exact h.isValue
    | sessions _ h => cases h <;> rfl

end

end Configuration

/-! ## The settings of a tree -/

/-- A file of a tree holds a document. -/
def FileTree.Holds (t : FileTree) (path : String) (d : Yaml) : Prop :=
  ∃ bytes, t.entry path = .ok (.file bytes) ∧
    (Yaml.Source.ofBytes bytes >>= Yaml.read) = .ok d

theorem FileTree.Holds.configuration_eq {t : FileTree} {path : String} {d : Yaml}
    (h : t.Holds path d) : t.configuration path = Configuration.ofDocument d := by
  obtain ⟨bytes, hentry, hread⟩ := h
  obtain ⟨source, hsource, hdocument⟩ := bind_eq_ok.mp hread
  simp only [FileTree.configuration, hentry, hsource, hdocument, ok_bind]

namespace Workplace

open CommandLine (AnalyzeOptions Invocation)
open Configuration (Mishap Laxity ofDocument)

/-- With the settings of a file the command that analyses says in words why it refuses them, does
nothing else and ends with code one. -/
def Refuses (w : Workplace) (path : String) (e : Failure) : Prop :=
  ∀ (settings : Option String) (verbose : Bool) (o : AnalyzeOptions) (input : List String),
    settings.getD FileTree.settingsPath = path →
    (Invocation.run w input (.analyze settings verbose o)).outcome = .ok 1 ∧
      (Invocation.run w input (.analyze settings verbose o)).events =
        [.complain ("Invalid configuration: " ++ e.message ++ "\n")]

/-- With the settings of a file the command that analyses ends in a failure. -/
def Breaks (w : Workplace) (path : String) (e : Failure) : Prop :=
  ∀ (settings : Option String) (verbose : Bool) (o : AnalyzeOptions) (input : List String),
    settings.getD FileTree.settingsPath = path →
    (Invocation.run w input (.analyze settings verbose o)).outcome = .error e

/-- The settings of a file are sound, or refused in words. -/
inductive ConfiguresWell (w : Workplace) (path : String) : Prop
  | sound {c : Configuration} (reads : w.tree.configuration path = .ok c) (sound : c.IsSound)
  | refused {e : Failure} (fails : w.tree.configuration path = .error e)
      (value : e.isValue = true) (told : w.Refuses path e)

section

variable {w : Workplace} {path : String} {d : Yaml} {e : Failure}

theorem refuses (h : w.tree.configuration path = .error e) (he : e.isValue = true) :
    w.Refuses path e := by
  rintro settings verbose o input rfl
  simp only [Invocation.run, h, he, if_true]
  exact ⟨rfl, rfl⟩

theorem breaks (h : w.tree.configuration path = .error e) (he : e.isValue = false) :
    w.Breaks path e := by
  rintro settings verbose o input rfl
  simp only [Invocation.run, h, he, Bool.false_eq_true, if_false]
  rfl

/-- **When the settings of a file are sound, or refused in words.** They are unless the document is
one of those that end the reading in another failure, which ends the command, or of those that are
taken for settings that are not sound. -/
theorem settings_end_iff (h : w.tree.Holds path d) :
    (w.ConfiguresWell path ↔
      ¬ ((∃ e, Mishap d e) ∨ ∃ entries, d = .map entries ∧ Laxity entries)) ∧
      (∀ e, Mishap d e → w.tree.configuration path = .error e ∧ w.Breaks path e) ∧
      ∀ entries, d = .map entries → Laxity entries →
        ∃ c, w.tree.configuration path = .ok c ∧ ¬ c.IsSound := by
  have hmishap : ∀ e, Mishap d e → w.tree.configuration path = .error e := fun e he => by
    rw [h.configuration_eq, Configuration.ofDocument_error_iff he.isValue]
    exact he
  have hlax : (∃ entries, d = .map entries ∧ Laxity entries) ↔
      ∃ c, w.tree.configuration path = .ok c ∧ ¬ c.IsSound := by
    rw [h.configuration_eq, Configuration.ofDocument_unsound_iff]
  refine ⟨⟨?_, ?_⟩, fun e he => ⟨hmishap e he, breaks (hmishap e he) he.isValue⟩,
    fun entries hd hlaxity => hlax.mp ⟨entries, hd, hlaxity⟩⟩
  · rintro hwell (⟨e, he⟩ | hlaxity)
    · cases hwell with
      | sound reads => cases reads.symm.trans (hmishap e he)
      | refused fails value =>
        cases fails.symm.trans (hmishap e he)
        cases he.isValue.symm.trans value
    · obtain ⟨c, hc, hunsound⟩ := hlax.mp hlaxity
      cases hwell with
      | sound reads sound =>
        cases reads.symm.trans hc
        exact hunsound sound
      | refused fails => cases fails.symm.trans hc
  · intro hnone
    cases hreads : w.tree.configuration path with
    | ok c =>
      refine .sound hreads (Classical.byContradiction fun hunsound => hnone (.inr ?_))
      exact hlax.mpr ⟨c, hreads, hunsound⟩
    | error e =>
      cases he : e.isValue with
      | true => exact .refused hreads he (refuses hreads he)
      | false =>
        refine absurd (.inl ⟨e, ?_⟩) hnone
        rwa [← Configuration.ofDocument_error_iff he, ← h.configuration_eq]

end

/-! ## Sessions that are left open -/

/-- A workplace with some files, no connection and no model. -/
def ofTree (t : FileTree) : Workplace where
  tree := t
  connection := { answer := fun _ => .lost "unknown", token := none }
  clock := Clock.ofMillis 0
  environment := {}
  replies := fun _ _ => .nothing
  standIn := none

/-- A workplace whose settings have a place for sessions and nothing in it. -/
def withOpenSessions : Workplace :=
  ofTree ⟨[(["codeqa.yml"], .file "sessions: null\n".toUTF8.toList)]⟩

theorem openSessions_hold : ∃ d, withOpenSessions.tree.Holds "codeqa.yml" d := by
  have hread : (Yaml.Source.ofBytes "sessions: null\n".toUTF8.toList >>= Yaml.read).map
      (fun _ => ()) = .ok () := by
    decide +kernel
  obtain ⟨d, hd, _⟩ := map_eq_ok.mp hread
  exact ⟨d, _, by decide +kernel, hd⟩

theorem openSessions_fail : withOpenSessions.tree.configuration "codeqa.yml" =
    .error (.missingMember "NoneType" "get") := by
  have hprovider : (withOpenSessions.tree.configuration "codeqa.yml").map (·.provider) =
      .error (.missingMember "NoneType" "get") := by
    decide +kernel
  exact map_eq_error.mp hprovider

theorem settings_end_iff_openSessions : ∃ d, withOpenSessions.tree.Holds "codeqa.yml" d ∧
    Mishap d (.missingMember "NoneType" "get") ∧
    ¬ withOpenSessions.ConfiguresWell "codeqa.yml" := by
  obtain ⟨d, hd⟩ := openSessions_hold
  have hmishap : Mishap d (.missingMember "NoneType" "get") :=
    (Configuration.ofDocument_error_iff rfl).mp (hd.configuration_eq ▸ openSessions_fail)
  exact ⟨d, hd, hmishap, fun hwell => (settings_end_iff hd).1.mp hwell (.inl ⟨_, hmishap⟩)⟩

/-- The settings are neither read nor refused. -/
theorem openSessions_break :
    (∃ d, withOpenSessions.tree.Holds "codeqa.yml" d) ∧
      withOpenSessions.tree.configuration "codeqa.yml" =
        .error (.missingMember "NoneType" "get") ∧
      (Failure.missingMember "NoneType" "get").isValue = false ∧
      withOpenSessions.Breaks "codeqa.yml" (.missingMember "NoneType" "get") :=
  ⟨openSessions_hold, openSessions_fail, rfl, breaks openSessions_fail rfl⟩

end Workplace

end Assay
