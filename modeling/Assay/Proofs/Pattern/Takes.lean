import Mathlib.Data.List.TakeWhile
import Assay.Pattern.Build

/-!
# What a pattern takes

Whether a pattern occurs in a text does not depend on the order in which the matcher tries its ends,
nor on what it remembers.

* `Pattern.Takes`: a pattern takes a text after one character and before another text, told by its
  parts;
* `Cursor.mem_runs_iff`: the places after a run, told the same way;
* `Pattern.exists_ends_iff`: the ends of a pattern are the places after what it takes;
* `Pattern.occursIn_iff`: a pattern occurs where it takes some part of the text;
* `Pattern.takes_lit_iff`: a written text takes itself.
-/

namespace Assay

/-- In a list on which a property does not come back, those that have it stand first. -/
theorem mem_takeWhile_iff {α : Type} {p : α → Bool} {xs : List α}
    (h : xs.Pairwise fun x y => p y = true → p x = true) {x : α} :
    x ∈ xs.takeWhile p ↔ x ∈ xs ∧ p x = true := by
  induction xs with
  | nil => simp
  | cons y ys ih =>
    obtain ⟨hfirst, hrest⟩ := List.pairwise_cons.mp h
    by_cases hy : p y = true
    · rw [List.takeWhile_cons_of_pos hy, List.mem_cons, List.mem_cons, ih hrest]
      constructor
      · rintro (rfl | ⟨hx, hpx⟩)
        · exact ⟨Or.inl rfl, hy⟩
        · exact ⟨Or.inr hx, hpx⟩
      · rintro ⟨rfl | hx, hpx⟩
        · exact Or.inl rfl
        · exact Or.inr ⟨hx, hpx⟩
    · rw [List.takeWhile_cons_of_neg hy]
      constructor
      · intro hx
        cases hx
      · rintro ⟨hx, hpx⟩
        rcases List.mem_cons.mp hx with rfl | hx
        · exact absurd hpx hy
        · exact absurd (hfirst x hx hpx) hy

/-- The last character of a text that has a first one does not depend on what comes before. -/
theorem getLast?_cons_or (x : Char) (w : List Char) (before : Option Char) :
    (x :: w).getLast?.or before = w.getLast?.or (some x) := by
  rw [List.getLast?_cons]
  cases w.getLast? with
  | none => rfl
  | some y => rfl

namespace Cursor

/-! ## Places after a text -/

/-- The place after a text, where another is left. -/
def after (c : Cursor) (w rest : List Char) : Cursor :=
  ⟨c.pos + w.length, w.getLast?.or c.before, rest⟩

theorem after_before (c : Cursor) (w rest : List Char) :
    (c.after w rest).before = w.getLast?.or c.before := rfl

theorem after_after (c : Cursor) (u v rest rest' : List Char) :
    (c.after u rest).after v rest' = c.after (u ++ v) rest' := by
  simp [after, Nat.add_assoc, List.getLast?_append, Option.or_assoc]

theorem step_eq_some_iff {c d : Cursor} {s : CharClass} :
    c.step s = some d ↔
      ∃ x, c.rest = [x] ++ d.rest ∧ s.mem x = true ∧ d = c.after [x] d.rest := by
  unfold step
  split
  · rename_i hrest
    simp [hrest]
  · rename_i x r hrest
    rw [hrest]
    split
    · rename_i hx
      constructor
      · intro h
        obtain rfl := Option.some.inj h
        exact ⟨x, rfl, hx, rfl⟩
      · rintro ⟨y, hy, _, hd⟩
        obtain ⟨rfl, rfl⟩ := List.cons.inj hy
        rw [hd]
        rfl
    · rename_i hx
      constructor
      · intro h
        cases h
      · rintro ⟨y, hy, hmem, _⟩
        obtain ⟨rfl, _⟩ := List.cons.inj hy
        exact absurd hmem hx

theorem after_cons (pos : Nat) (before : Option Char) (x : Char) (r w rest : List Char) :
    (⟨pos, before, x :: r⟩ : Cursor).after (x :: w) rest =
      (⟨pos + 1, some x, r⟩ : Cursor).after w rest := by
  unfold after
  rw [getLast?_cons_or, List.length_cons, Nat.add_assoc, Nat.add_comm 1]

/-- The place is one after some characters of a class. -/
def Reached (s : CharClass) (c d : Cursor) : Prop :=
  ∃ w, c.rest = w ++ d.rest ∧ (∀ x ∈ w, s.mem x = true) ∧ d = c.after w d.rest

/-- After a character the place is the one before it, or a later one if the character is of the
class. -/
theorem reached_cons_iff {s : CharClass} {pos : Nat} {before : Option Char} {x : Char}
    {r : List Char} {d : Cursor} :
    Reached s ⟨pos, before, x :: r⟩ d ↔
      d = ⟨pos, before, x :: r⟩ ∨ s.mem x = true ∧ Reached s ⟨pos + 1, some x, r⟩ d := by
  constructor
  · rintro ⟨w, hrest, hw, hd⟩
    cases w with
    | nil =>
      left
      rw [hd, ← show x :: r = d.rest from hrest]
      rfl
    | cons y w =>
      obtain ⟨rfl, hr⟩ := List.cons.inj hrest
      rw [List.forall_mem_cons] at hw
      rw [after_cons] at hd
      exact Or.inr ⟨hw.1, w, hr, hw.2, hd⟩
  · rintro (rfl | ⟨hx, w, hr, hw, hd⟩)
    · exact ⟨[], rfl, by simp, rfl⟩
    · refine ⟨x :: w, congrArg (x :: ·) hr, List.forall_mem_cons.mpr ⟨hx, hw⟩, ?_⟩
      rw [after_cons]
      exact hd

theorem mem_reach_iff {s : CharClass} {pos : Nat} {before : Option Char} {rest : List Char}
    {acc : List Cursor} {d : Cursor} :
    d ∈ reach s pos before rest acc ↔ Reached s ⟨pos, before, rest⟩ d ∨ d ∈ acc := by
  induction rest generalizing pos before acc with
  | nil =>
    have hnil : Reached s ⟨pos, before, []⟩ d ↔ d = ⟨pos, before, []⟩ := by
      constructor
      · rintro ⟨w, hrest, _, hd⟩
        obtain ⟨rfl, hdrest⟩ := List.append_eq_nil_iff.mp hrest.symm
        rw [hd, hdrest]
        rfl
      · rintro rfl
        exact ⟨[], rfl, by simp, rfl⟩
    rw [reach, List.mem_cons, hnil]
  | cons x r ih =>
    rw [reach, reached_cons_iff]
    split
    · rename_i hx
      rw [ih, List.mem_cons, or_assoc.symm, or_comm (b := d = _)]
      simp [hx]
    · rename_i hx
      simp [hx]

/-- The places are listed from the farthest to the nearest. -/
theorem reach_pairwise {s : CharClass} {pos : Nat} {before : Option Char} {rest : List Char}
    {acc : List Cursor} (hacc : acc.Pairwise fun d e => e.pos ≤ d.pos)
    (hpos : ∀ d ∈ acc, d.pos ≤ pos) :
    (reach s pos before rest acc).Pairwise fun d e => e.pos ≤ d.pos := by
  induction rest generalizing pos before acc with
  | nil => exact List.pairwise_cons.mpr ⟨hpos, hacc⟩
  | cons x r ih =>
    have hnow : (⟨pos, before, x :: r⟩ :: acc).Pairwise fun d e => e.pos ≤ d.pos :=
      List.pairwise_cons.mpr ⟨hpos, hacc⟩
    rw [reach]
    split
    · refine ih hnow fun d hd => ?_
      rcases List.mem_cons.mp hd with rfl | hd
      · exact Nat.le_succ pos
      · exact Nat.le_succ_of_le (hpos d hd)
    · exact hnow

/-- The places after a run are those after enough characters of the class, in whatever order. -/
theorem mem_runs_iff {c d : Cursor} {s : CharClass} {least : Nat} {greedy : Bool} :
    d ∈ c.runs s least greedy ↔
      ∃ w, c.rest = w ++ d.rest ∧ (least ≤ w.length ∧ ∀ x ∈ w, s.mem x = true) ∧
        d = c.after w d.rest := by
  have hplaces : d ∈ c.runs s least greedy ↔ Reached s c d ∧ c.pos + least ≤ d.pos := by
    have hfar : (reach s c.pos c.before c.rest []).Pairwise fun d e =>
        decide (c.pos + least ≤ e.pos) = true → decide (c.pos + least ≤ d.pos) = true := by
      refine (reach_pairwise List.Pairwise.nil (by simp)).imp fun {d e} hde he => ?_
      rw [decide_eq_true_eq] at he ⊢
      exact Nat.le_trans he hde
    have hmem := mem_takeWhile_iff hfar (x := d)
    rw [mem_reach_iff, decide_eq_true_eq] at hmem
    unfold runs
    dsimp only
    split
    · simpa using hmem
    · simpa using hmem
  rw [hplaces]
  constructor
  · rintro ⟨⟨w, hrest, hw, hd⟩, hfar⟩
    have hlength : d.pos = c.pos + w.length := congrArg Cursor.pos hd
    exact ⟨w, hrest, ⟨by omega, hw⟩, hd⟩
  · rintro ⟨w, hrest, ⟨hleast, hw⟩, hd⟩
    have hlength : d.pos = c.pos + w.length := congrArg Cursor.pos hd
    exact ⟨⟨w, hrest, hw, hd⟩, by omega⟩

end Cursor

/-! ## What a pattern takes -/

namespace Pattern

/-- The pattern takes the text `w` after the character `before` and before the text `rest`. -/
def Takes : Pattern → Option Char → List Char → List Char → Prop
  | nothing, _, w, _ => w = []
  | one s, _, w, _ => ∃ x, w = [x] ∧ s.mem x = true
  | run s least _, _, w, _ => least ≤ w.length ∧ ∀ x ∈ w, s.mem x = true
  | cat p q, before, w, rest =>
    ∃ u v, w = u ++ v ∧ p.Takes before u (v ++ rest) ∧ q.Takes (u.getLast?.or before) v rest
  | either p q, before, w, rest => p.Takes before w rest ∨ q.Takes before w rest
  | maybe p, before, w, rest => p.Takes before w rest ∨ w = []
  | capture _ p, before, w, rest => p.Takes before w rest
  | boundary, before, w, rest => w = [] ∧ (⟨0, before, rest⟩ : Cursor).atBoundary = true
  | lineStart, before, w, rest => w = [] ∧ (⟨0, before, rest⟩ : Cursor).atLineStart = true
  | textStart, before, w, _ => w = [] ∧ before = none
  | textEnd, before, w, rest => w = [] ∧ (⟨0, before, rest⟩ : Cursor).atTextEnd = true

/-- A test of the characters around a place takes none of them. -/
theorem test_ends_iff (test : Option Char → List Char → Bool) (c d : Cursor) (caps : Captures) :
    (∃ caps', (d, caps') ∈ if test c.before c.rest then [(c, caps)] else []) ↔
      ∃ w, c.rest = w ++ d.rest ∧ d = c.after w d.rest ∧ w = [] ∧
        test c.before d.rest = true := by
  constructor
  · rintro ⟨caps', h⟩
    obtain ⟨htest, hd⟩ : test c.before c.rest = true ∧ (d, caps') = (c, caps) := by simpa using h
    obtain ⟨rfl, rfl⟩ := Prod.mk.inj hd
    exact ⟨[], rfl, rfl, rfl, htest⟩
  · rintro ⟨_, hrest, hd, rfl, htest⟩
    rw [← show c.rest = d.rest from hrest] at hd htest
    obtain rfl : d = c := hd
    exact ⟨caps, by simp [htest]⟩

/-- The ends of a pattern are the places after what it takes. -/
theorem exists_ends_iff (p : Pattern) (c d : Cursor) (caps : Captures) :
    (∃ caps', (d, caps') ∈ p.ends c caps) ↔
      ∃ w, c.rest = w ++ d.rest ∧ d = c.after w d.rest ∧ p.Takes c.before w d.rest := by
  induction p generalizing c d caps with
  | nothing => simpa [ends, Takes] using test_ends_iff (fun _ _ => true) c d caps
  | one s =>
    constructor
    · rintro ⟨caps', h⟩
      obtain ⟨e, he, hd⟩ := Option.map_eq_some_iff.mp (Option.mem_toList.mp h)
      obtain ⟨rfl, rfl⟩ := Prod.mk.inj hd
      obtain ⟨x, hrest, hx, hd⟩ := Cursor.step_eq_some_iff.mp he
      exact ⟨[x], hrest, hd, x, rfl, hx⟩
    · rintro ⟨_, hrest, hd, x, rfl, hx⟩
      have hstep : c.step s = some d := Cursor.step_eq_some_iff.mpr ⟨x, hrest, hx, hd⟩
      exact ⟨caps, Option.mem_toList.mpr (Option.map_eq_some_iff.mpr ⟨d, hstep, rfl⟩)⟩
  | run s least greedy =>
    constructor
    · rintro ⟨caps', h⟩
      obtain ⟨e, he, hd⟩ := List.mem_map.mp h
      obtain ⟨rfl, rfl⟩ := Prod.mk.inj hd
      obtain ⟨w, hrest, hw, hd⟩ := Cursor.mem_runs_iff.mp he
      exact ⟨w, hrest, hd, hw⟩
    · rintro ⟨w, hrest, hd, hw⟩
      have hruns : d ∈ c.runs s least greedy := Cursor.mem_runs_iff.mpr ⟨w, hrest, hw, hd⟩
      exact ⟨caps, List.mem_map_of_mem hruns⟩
  | cat p q ihp ihq =>
    constructor
    · rintro ⟨caps', h⟩
      obtain ⟨⟨e, caps''⟩, he, hd⟩ := List.mem_flatMap.mp h
      obtain ⟨u, hu, heu, hpu⟩ := (ihp c e caps).mp ⟨caps'', he⟩
      obtain ⟨v, hv, hdv, hqv⟩ := (ihq e d caps'').mp ⟨caps', hd⟩
      rw [hv] at hu hpu
      refine ⟨u ++ v, by rw [hu, List.append_assoc], ?_, u, v, rfl, hpu, ?_⟩
      · rw [hdv, heu, Cursor.after_after]
        rfl
      · rw [heu, Cursor.after_before] at hqv
        exact hqv
    · rintro ⟨_, hrest, hd, u, v, rfl, hpu, hqv⟩
      rw [List.append_assoc] at hrest
      have hd : d = (c.after u (v ++ d.rest)).after v d.rest := by
        rw [Cursor.after_after]
        exact hd
      obtain ⟨caps'', he⟩ := (ihp c (c.after u (v ++ d.rest)) caps).mpr ⟨u, hrest, rfl, hpu⟩
      obtain ⟨caps', hd⟩ := (ihq _ d caps'').mpr ⟨v, rfl, hd, hqv⟩
      exact ⟨caps', List.mem_flatMap.mpr ⟨_, he, hd⟩⟩
  | either p q ihp ihq =>
    simp only [ends, Takes, List.mem_append, exists_or, and_or_left, ihp, ihq]
  | maybe p ih =>
    have hstay := test_ends_iff (fun _ _ => true) c d caps
    simp only [if_true, and_true] at hstay
    simp only [ends, Takes, List.mem_append, exists_or, and_or_left, ih, hstay]
  | capture n p ih =>
    constructor
    · rintro ⟨caps', h⟩
      obtain ⟨⟨e, caps''⟩, he, hd⟩ := List.mem_map.mp h
      obtain ⟨rfl, rfl⟩ := Prod.mk.inj hd
      exact (ih c e caps).mp ⟨caps'', he⟩
    · intro h
      obtain ⟨caps'', he⟩ := (ih c d caps).mpr h
      exact ⟨_, List.mem_map_of_mem he⟩
  | boundary => exact test_ends_iff (fun b r => (⟨0, b, r⟩ : Cursor).atBoundary) c d caps
  | lineStart => exact test_ends_iff (fun b r => (⟨0, b, r⟩ : Cursor).atLineStart) c d caps
  | textStart => simpa [ends, Takes] using test_ends_iff (fun b _ => b == none) c d caps
  | textEnd => exact test_ends_iff (fun b r => (⟨0, b, r⟩ : Cursor).atTextEnd) c d caps

theorem matchAt?_isSome_iff {p : Pattern} {c : Cursor} :
    (p.matchAt? c).isSome = true ↔ ∃ w rest, c.rest = w ++ rest ∧ p.Takes c.before w rest := by
  rw [matchAt?, attempt_eq_findSome?, List.findSome?_isSome_iff]
  constructor
  · rintro ⟨⟨d, caps'⟩, h, _⟩
    obtain ⟨w, hrest, _, hw⟩ := (exists_ends_iff p c d []).mp ⟨caps', h⟩
    exact ⟨w, d.rest, hrest, hw⟩
  · rintro ⟨w, rest, hrest, hw⟩
    obtain ⟨caps', h⟩ := (exists_ends_iff p c (c.after w rest) []).mpr ⟨w, hrest, rfl, hw⟩
    exact ⟨_, h, rfl⟩

/-- The pattern takes a part of a text that comes after a character. -/
def OccursAfter (p : Pattern) (before : Option Char) (s : List Char) : Prop :=
  ∃ a w r, s = a ++ w ++ r ∧ p.Takes (a.getLast?.or before) w r

theorem occursAfter_nil_iff {p : Pattern} {before : Option Char} :
    p.OccursAfter before [] ↔ ∃ w r, [] = w ++ r ∧ p.Takes before w r := by
  constructor
  · rintro ⟨a, w, r, hs, hw⟩
    obtain ⟨haw, rfl⟩ := List.append_eq_nil_iff.mp hs.symm
    obtain ⟨rfl, rfl⟩ := List.append_eq_nil_iff.mp haw
    exact ⟨[], [], rfl, hw⟩
  · rintro ⟨w, r, hs, hw⟩
    exact ⟨[], w, r, hs, hw⟩

/-- The part stands at the start, or it stands after the first character. -/
theorem occursAfter_cons_iff {p : Pattern} {before : Option Char} {x : Char} {s : List Char} :
    p.OccursAfter before (x :: s) ↔
      (∃ w r, x :: s = w ++ r ∧ p.Takes before w r) ∨ p.OccursAfter (some x) s := by
  constructor
  · rintro ⟨a, w, r, hs, hw⟩
    cases a with
    | nil => exact Or.inl ⟨w, r, hs, hw⟩
    | cons y a =>
      obtain ⟨rfl, htail⟩ := List.cons.inj hs
      rw [getLast?_cons_or] at hw
      exact Or.inr ⟨a, w, r, htail, hw⟩
  · rintro (⟨w, r, hs, hw⟩ | ⟨a, w, r, rfl, hw⟩)
    · exact ⟨[], w, r, hs, hw⟩
    · refine ⟨x :: a, w, r, rfl, ?_⟩
      rw [getLast?_cons_or]
      exact hw

theorem searchFrom_isSome_iff (p : Pattern) (pos : Nat) (before : Option Char)
    (rest : List Char) :
    (p.searchFrom pos before rest).isSome = true ↔ p.OccursAfter before rest := by
  induction rest generalizing pos before with
  | nil =>
    have hmatch := matchAt?_isSome_iff (p := p) (c := ⟨pos, before, []⟩)
    rw [occursAfter_nil_iff, ← hmatch, searchFrom]
    cases p.matchAt? ⟨pos, before, []⟩ with
    | none => rfl
    | some m => rfl
  | cons x rest ih =>
    have hmatch := matchAt?_isSome_iff (p := p) (c := ⟨pos, before, x :: rest⟩)
    rw [occursAfter_cons_iff, ← hmatch, ← ih (pos + 1), searchFrom]
    cases p.matchAt? ⟨pos, before, x :: rest⟩ with
    | none => simp
    | some m => simp

/-- A pattern occurs in a text if it takes a part of it. -/
theorem occursIn_iff {p : Pattern} {s : List Char} :
    p.occursIn s = true ↔ ∃ a w r, s = a ++ w ++ r ∧ p.Takes a.getLast? w r := by
  have h := searchFrom_isSome_iff p 0 none s
  simp only [OccursAfter, Option.or_none] at h
  exact h

/-! ## Written texts -/

theorem takes_append_iff {p q : Pattern} {before : Option Char} {w rest : List Char} :
    (p ++ q).Takes before w rest ↔
      ∃ u v, w = u ++ v ∧ p.Takes before u (v ++ rest) ∧ q.Takes (u.getLast?.or before) v rest :=
  Iff.rfl

/-- A written text takes itself, wherever it stands. -/
theorem takes_lit_iff {text : String} {before : Option Char} {w rest : List Char} :
    (lit text).Takes before w rest ↔ w = text.toList := by
  unfold lit
  induction text.toList generalizing before w with
  | nil => exact Iff.rfl
  | cons c cs ih =>
    rw [List.foldr_cons]
    constructor
    · rintro ⟨_, v, rfl, ⟨x, rfl, hx⟩, hv⟩
      rw [ih.mp hv, beq_iff_eq.mp hx]
      rfl
    · rintro rfl
      exact ⟨[c], cs, rfl, ⟨c, rfl, beq_self_eq_true c⟩, ih.mpr rfl⟩

end Pattern

end Assay
