import Assay.Proofs.Pattern.Takes

/-!
# What a pattern takes first

A match is the first end of its pattern that can be gone on from. Where the first end of every part
can be, the match and what its groups remember are told by the parts alone.

* `Pattern.Prefers`: the end that a pattern tries first;
* `Pattern.prefers_run`: a run that takes as much as it can stops before the first character that
  is not of its class;
* `Pattern.ends_append_eq_nil`: a sequence that cannot start has no end;
* `Pattern.searchFrom_append`: a search passes over a lead at no place of which a match starts;
* `Pattern.search?_of_prefers`: the leftmost match, behind such a lead.
-/

namespace Assay

namespace Cursor

theorem textTo_after {c : Cursor} {w rest : List Char} (h : c.rest = w ++ rest) :
    c.textTo (c.after w rest) = w := by
  simp [textTo, after, h]

/-- The farthest place after characters of a class comes before the first one that is not. -/
theorem head?_reach {s : CharClass} {w rest : List Char} (hw : ∀ x ∈ w, s.mem x = true)
    (hrest : ∀ x ∈ rest.head?, s.mem x = false) (pos : Nat) (before : Option Char)
    (acc : List Cursor) : (reach s pos before (w ++ rest) acc).head? =
      some ((⟨pos, before, w ++ rest⟩ : Cursor).after w rest) := by
  induction w generalizing pos before acc with
  | nil =>
    cases rest with
    | nil => rfl
    | cons x rest =>
      have hx : s.mem x = false := hrest x rfl
      rw [List.nil_append, reach, hx]
      rfl
  | cons x w ih =>
    rw [List.forall_mem_cons] at hw
    rw [List.cons_append, reach, if_pos hw.1, ih hw.2, after_cons]

theorem head?_runs {c : Cursor} {s : CharClass} {least : Nat} {w rest : List Char}
    (hc : c.rest = w ++ rest) (hleast : least ≤ w.length) (hw : ∀ x ∈ w, s.mem x = true)
    (hrest : ∀ x ∈ rest.head?, s.mem x = false) :
    (c.runs s least true).head? = some (c.after w rest) := by
  have hfar : c.pos + least ≤ (c.after w rest).pos := Nat.add_le_add_left hleast c.pos
  unfold runs
  rw [if_pos rfl, List.head?_takeWhile, hc, head?_reach hw hrest]
  exact Option.filter_some_pos (decide_eq_true hfar)

end Cursor

namespace Pattern

variable {p q : Pattern} {c d e : Cursor} {caps caps' caps'' : Captures}

/-! ## First ends -/

/-- Of the ends of a pattern, this is the one that is tried first. -/
def Prefers (p : Pattern) (c : Cursor) (caps : Captures) (d : Cursor) (caps' : Captures) : Prop :=
  (p.ends c caps).head? = some (d, caps')

theorem Prefers.append (hp : p.Prefers c caps d caps') (hq : q.Prefers d caps' e caps'') :
    (p ++ q).Prefers c caps e caps'' := by
  obtain ⟨others, hends⟩ := List.head?_eq_some_iff.mp hp
  obtain ⟨others', hends'⟩ := List.head?_eq_some_iff.mp hq
  change ((p.ends c caps).flatMap fun x => q.ends x.1 x.2).head? = some (e, caps'')
  rw [hends, List.flatMap_cons, hends']
  rfl

theorem Prefers.capture (h : p.Prefers c caps d caps') (n : Nat) :
    (capture n p).Prefers c caps d ((n, c.textTo d) :: caps') := by
  obtain ⟨others, hends⟩ := List.head?_eq_some_iff.mp h
  unfold Prefers ends
  rw [hends]
  rfl

theorem Prefers.left (h : p.Prefers c caps d caps') : (either p q).Prefers c caps d caps' := by
  obtain ⟨others, hends⟩ := List.head?_eq_some_iff.mp h
  unfold Prefers ends
  rw [hends]
  rfl

theorem Prefers.right (h : q.Prefers c caps d caps') (hp : p.ends c caps = []) :
    (either p q).Prefers c caps d caps' := by
  unfold Prefers ends
  rw [hp]
  exact h

theorem Prefers.maybe (h : p.Prefers c caps d caps') : (maybe p).Prefers c caps d caps' := by
  obtain ⟨others, hends⟩ := List.head?_eq_some_iff.mp h
  unfold Prefers ends
  rw [hends]
  rfl

theorem prefers_maybe_of_nil (h : p.ends c caps = []) : (maybe p).Prefers c caps c caps := by
  unfold Prefers ends
  rw [h]
  rfl

theorem prefers_textStart (h : c.before = none) : textStart.Prefers c caps c caps := by
  unfold Prefers ends
  rw [h]
  rfl

theorem prefers_textEnd (h : c.atTextEnd = true) : textEnd.Prefers c caps c caps := by
  unfold Prefers ends
  rw [if_pos h]
  rfl

theorem prefers_boundary (h : c.atBoundary = true) : boundary.Prefers c caps c caps := by
  unfold Prefers ends
  rw [if_pos h]
  rfl

theorem prefers_run {s : CharClass} {least : Nat} {w rest : List Char} (hc : c.rest = w ++ rest)
    (hleast : least ≤ w.length) (hw : ∀ x ∈ w, s.mem x = true)
    (hrest : ∀ x ∈ rest.head?, s.mem x = false) :
    (run s least true).Prefers c caps (c.after w rest) caps := by
  unfold Prefers ends
  rw [List.head?_map, Cursor.head?_runs hc hleast hw hrest]
  rfl

theorem prefers_lit {text : String} {rest : List Char} (hc : c.rest = text.toList ++ rest) :
    (lit text).Prefers c caps (c.after text.toList rest) caps := by
  unfold lit
  generalize text.toList = w at hc ⊢
  induction w generalizing c with
  | nil =>
    obtain ⟨pos, before, r⟩ := c
    obtain rfl : r = rest := hc
    rfl
  | cons x w ih =>
    have hstep : c.step (.exactly x) = some (c.after [x] (w ++ rest)) :=
      Cursor.step_eq_some_iff.mpr ⟨x, hc, beq_self_eq_true x, rfl⟩
    have hone : (one (.exactly x)).Prefers c caps (c.after [x] (w ++ rest)) caps := by
      unfold Prefers ends
      rw [hstep]
      rfl
    have hboth := hone.append (ih (c := c.after [x] (w ++ rest)) rfl)
    rw [Cursor.after_after] at hboth
    exact hboth

/-! ## No end -/

theorem ends_eq_nil_iff :
    p.ends c caps = [] ↔ ∀ w rest, c.rest = w ++ rest → ¬ p.Takes c.before w rest := by
  constructor
  · intro h w rest hrest hw
    obtain ⟨caps', hmem⟩ :=
      (exists_ends_iff p c (c.after w rest) caps).mpr ⟨w, hrest, rfl, hw⟩
    rw [h] at hmem
    cases hmem
  · intro h
    apply List.eq_nil_iff_forall_not_mem.mpr
    rintro ⟨d, caps'⟩ hmem
    obtain ⟨w, hrest, _, hw⟩ := (exists_ends_iff p c d caps).mp ⟨caps', hmem⟩
    exact h w d.rest hrest hw

theorem ends_append_eq_nil (h : p.ends c caps = []) : (p ++ q).ends c caps = [] := by
  change ((p.ends c caps).flatMap fun x => q.ends x.1 x.2) = []
  rw [h]
  rfl

/-! ## The leftmost match -/

theorem Prefers.matchAt? (h : p.Prefers c [] d caps) : p.matchAt? c = some ⟨c, d, caps⟩ := by
  obtain ⟨others, hends⟩ := List.head?_eq_some_iff.mp h
  rw [Pattern.matchAt?, attempt_eq_findSome?, hends]
  rfl

theorem matchAt?_of_ends_eq_nil (h : p.ends c [] = []) : p.matchAt? c = none := by
  rw [Pattern.matchAt?, attempt_eq_findSome?, h]
  rfl

/-- A search passes over a lead at no place of which a match starts. -/
theorem searchFrom_append {lead s : List Char} (pos : Nat) (before : Option Char)
    (hlead : ∀ x later, x :: later <:+ lead →
      ∀ pos before, p.ends ⟨pos, before, x :: (later ++ s)⟩ [] = []) :
    p.searchFrom pos before (lead ++ s) =
      p.searchFrom (pos + lead.length) (lead.getLast?.or before) s := by
  induction lead generalizing pos before with
  | nil => rfl
  | cons x lead ih =>
    have hnone := matchAt?_of_ends_eq_nil (hlead x lead (List.suffix_refl _) pos before)
    rw [List.cons_append, searchFrom, hnone, getLast?_cons_or]
    dsimp only
    rw [ih (pos + 1) (some x) fun y later hlater =>
      hlead y later (hlater.trans (List.suffix_cons x lead)), List.length_cons, Nat.add_assoc,
      Nat.add_comm 1]

theorem searchFrom_of_prefers {lead s : List Char} {pos : Nat} {before : Option Char}
    (hlead : ∀ x later, x :: later <:+ lead →
      ∀ pos before, p.ends ⟨pos, before, x :: (later ++ s)⟩ [] = [])
    (h : p.Prefers (Cursor.after ⟨pos, before, lead ++ s⟩ lead s) [] d caps) :
    p.searchFrom pos before (lead ++ s) =
      some ⟨Cursor.after ⟨pos, before, lead ++ s⟩ lead s, d, caps⟩ := by
  have hmatch := h.matchAt?
  rw [searchFrom_append pos before hlead]
  unfold searchFrom
  change p.matchAt? ⟨pos + lead.length, lead.getLast?.or before, s⟩ = _ at hmatch
  rw [hmatch]

/-- The leftmost match, behind a lead at which none starts, is the first end of the pattern
there. -/
theorem search?_of_prefers {lead s : List Char}
    (hlead : ∀ x later, x :: later <:+ lead →
      ∀ pos before, p.ends ⟨pos, before, x :: (later ++ s)⟩ [] = [])
    (h : p.Prefers ((Cursor.start (lead ++ s)).after lead s) [] d caps) :
    p.search? (lead ++ s) = some ⟨(Cursor.start (lead ++ s)).after lead s, d, caps⟩ :=
  searchFrom_of_prefers hlead h

end Pattern

end Assay
