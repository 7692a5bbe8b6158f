import Mathlib.Algebra.BigOperators.Group.List.Basic
import Mathlib.Algebra.Ring.Nat
import Mathlib.Order.Bounds.Basic
import Assay.Proofs.Pattern.Absence

/-!
# How many matches there are

All matches are found from left to right, each as soon as there is one. That is the most that can
be found, as long as no match stands inside another one that goes on after it.

* `Pattern.Finds`: some number of matches, one after the other;
* `Pattern.Orderly`: matches end in the order in which they start;
* `Pattern.count_isGreatest`: of an orderly pattern, the most matches are counted;
* `Pattern.sum_count_le`, `Pattern.count_intercalate`: the matches of some lines and of their text;
* `Pattern.StandsClear`, `Pattern.isClearOf`, `Pattern.orderly_anyOf`: how to tell that a pattern of
  alternatives is orderly.
-/

namespace Assay.Pattern

variable {p q : Pattern} {before before' : Option Char} {s t w rest rest' : List Char} {m n : Nat}

/-- Some number of matches can be taken, one after the other, from a text that comes after a
character. -/
inductive Finds (p : Pattern) : Option Char → List Char → Nat → Prop
  | stop (before : Option Char) (s : List Char) : Finds p before s 0
  | skip {before : Option Char} {x : Char} {s : List Char} {n : Nat} (h : Finds p (some x) s n) :
      Finds p before (x :: s) n
  | take {before : Option Char} {w rest : List Char} {n : Nat} (hw : p.Takes before w rest)
      (h : Finds p (w.getLast?.or before) rest n) : Finds p before (w ++ rest) (n + 1)

/-- Every match takes something, and one that stands inside another does not end before it. -/
structure Orderly (p : Pattern) : Prop where
  ne_nil : ∀ {before w rest}, p.Takes before w rest → w ≠ []
  inside : ∀ {before u v z rest}, p.Takes before (u ++ v ++ z) rest →
    p.Takes (u.getLast?.or before) v (z ++ rest) → z = []

theorem Orderly.length_lt (hp : p.Orderly) (hw : p.Takes before w rest) (hs : s = w ++ rest) :
    rest.length < s.length := by
  have hpos := List.length_pos_iff.mpr (hp.ne_nil hw)
  rw [hs, List.length_append]
  omega

namespace Finds

theorem skips (u : List Char) (h : Finds p (u.getLast?.or before) s n) :
    Finds p before (u ++ s) n := by
  induction u generalizing before with
  | nil => exact h
  | cons x u ih =>
    rw [getLast?_cons_or] at h
    exact .skip (ih h)

/-- One match less can be found as well. -/
theorem fewer (h : Finds p before s (n + 1)) : Finds p before s n := by
  generalize hk : n + 1 = k at h
  induction h generalizing n with
  | stop => cases hk
  | skip _ ih => exact .skip (ih hk)
  | take hw h ih =>
    obtain rfl := Nat.succ.inj hk
    exact h.skips _

/-- Where nothing is left there is nothing to find. -/
theorem eq_zero_of_nil (hp : p.Orderly) (h : Finds p before [] n) : n = 0 := by
  generalize hs : ([] : List Char) = s at h
  cases h with
  | stop => rfl
  | skip => cases hs
  | take hw =>
    obtain ⟨hnil, _⟩ := List.append_eq_nil_iff.mp hs.symm
    exact absurd hnil (hp.ne_nil hw)

/-- The first match there is ends before all but the first of any others do. -/
theorem after_first (hp : p.Orderly) (hw : p.Takes before w rest)
    (h : Finds p before (w ++ rest) (n + 1)) : Finds p (w.getLast?.or before) rest n := by
  suffices hrest : ∀ u v, w = u ++ v → Finds p (u.getLast?.or before) (v ++ rest) (n + 1) →
      Finds p (w.getLast?.or before) rest n from hrest [] w rfl h
  clear h
  intro u v hcut h
  -- What is skipped of the match goes from its second part `v` to its first part `u`.
  induction v generalizing u with
  | nil =>
    rw [List.append_nil] at hcut
    rw [hcut]
    exact h.fewer
  | cons x v ih =>
    generalize hs : x :: v ++ rest = s at h
    cases h with
    | skip h =>
      obtain ⟨rfl, rfl⟩ := List.cons.inj hs
      refine ih (u ++ [x]) (by simp [hcut]) ?_
      rwa [List.getLast?_concat]
    | @take _ w' rest' _ hw' h =>
      rcases List.append_eq_append_iff.mp hs with ⟨z, rfl, rfl⟩ | ⟨z, hv, rfl⟩
      · -- The other match ends where the first one does, or later.
        have hlast : (x :: v ++ z).getLast?.or (u.getLast?.or before) =
            z.getLast?.or (w.getLast?.or before) := by
          rw [hcut, List.getLast?_append, List.getLast?_append (l := u), Option.or_assoc,
            Option.or_assoc]
        rw [hlast] at h
        exact h.skips z
      · rw [hcut, hv, ← List.append_assoc] at hw
        obtain rfl := hp.inside hw hw'
        rw [List.append_nil] at hv
        rw [← hv] at h
        rw [hcut, List.getLast?_append, Option.or_assoc]
        exact h

end Finds

/-! ## Counting -/

theorem matchAt?_eq_some {c : Cursor} {found : Match} (h : p.matchAt? c = some found) :
    ∃ w rest, c.rest = w ++ rest ∧ p.Takes c.before w rest ∧ found.length = w.length := by
  rw [matchAt?, attempt_eq_findSome?] at h
  obtain ⟨⟨d, caps⟩, hmem, heq⟩ := List.exists_of_findSome?_eq_some h
  obtain rfl := Option.some.inj heq
  obtain ⟨w, hrest, hd, hw⟩ := (exists_ends_iff p c d []).mp ⟨caps, hmem⟩
  refine ⟨w, d.rest, hrest, hw, ?_⟩
  change d.pos - c.pos = w.length
  rw [hd]
  exact Nat.add_sub_cancel_left c.pos w.length

theorem matchAt?_eq_none_iff {c : Cursor} :
    p.matchAt? c = none ↔ ∀ w rest, c.rest = w ++ rest → ¬ p.Takes c.before w rest := by
  rw [← Option.not_isSome_iff_eq_none, matchAt?_isSome_iff]
  simp

theorem length_scan (p : Pattern) (pos : Nat) (before : Option Char) (rest : List Char)
    (skip : Nat) (acc : List Match) : (p.scan pos before rest skip acc).length =
      (p.scan pos before rest skip []).length + acc.length := by
  induction rest generalizing pos before skip acc with
  | nil =>
    unfold scan
    split
    · split <;> simp [Nat.add_comm]
    · simp
  | cons x r ih =>
    cases skip with
    | succ skip => exact ih _ _ _ _
    | zero =>
      unfold scan
      split
      · rename_i found _
        rw [ih _ _ _ (found :: acc), ih _ _ _ [found], List.length_cons, List.length_singleton]
        omega
      · exact ih _ _ _ _

theorem scan_skip (p : Pattern) (pos : Nat) (before : Option Char) (w rest : List Char)
    (acc : List Match) : p.scan pos before (w ++ rest) w.length acc =
      p.scan (pos + w.length) (w.getLast?.or before) rest 0 acc := by
  induction w generalizing pos before with
  | nil => rfl
  | cons x w ih =>
    have hpos : pos + (x :: w).length = pos + 1 + w.length := by
      rw [List.length_cons]
      omega
    rw [getLast?_cons_or, hpos, ← ih]
    rfl

/-- The number of matches found from a place on. -/
def countFrom (p : Pattern) (pos : Nat) (before : Option Char) (rest : List Char) : Nat :=
  (p.scan pos before rest 0 []).length

theorem countFrom_nil (hp : p.Orderly) (pos : Nat) (before : Option Char) :
    p.countFrom pos before [] = 0 := by
  have hnone : p.matchAt? ⟨pos, before, []⟩ = none := by
    rw [matchAt?_eq_none_iff]
    intro w rest hrest hw
    exact hp.ne_nil hw (List.append_eq_nil_iff.mp hrest.symm).1
  rw [countFrom, scan, hnone]
  rfl

/-- Where no match starts, the search goes on after a character. -/
theorem countFrom_of_none {pos : Nat} {x : Char} {r : List Char}
    (h : p.matchAt? ⟨pos, before, x :: r⟩ = none) :
    p.countFrom pos before (x :: r) = p.countFrom (pos + 1) (some x) r := by
  rw [countFrom, scan, h]
  rfl

/-- Where a match starts, the search goes on after it. -/
theorem countFrom_of_some (hp : p.Orderly) {pos : Nat} {x : Char} {r : List Char} {found : Match}
    (h : p.matchAt? ⟨pos, before, x :: r⟩ = some found) :
    ∃ w rest, x :: r = w ++ rest ∧ p.Takes before w rest ∧
      p.countFrom pos before (x :: r) =
        p.countFrom (pos + w.length) (w.getLast?.or before) rest + 1 := by
  obtain ⟨w, rest, hrest, hw, hlength⟩ := matchAt?_eq_some h
  refine ⟨w, rest, hrest, hw, ?_⟩
  cases w with
  | nil => exact absurd rfl (hp.ne_nil hw)
  | cons y w =>
    obtain ⟨rfl, hr⟩ := List.cons.inj hrest
    have hpos : pos + (x :: w).length = pos + 1 + w.length := by
      rw [List.length_cons]
      omega
    rw [countFrom, scan, h]
    dsimp only
    rw [length_scan, hlength, List.length_cons, Nat.add_sub_cancel, hr]
    change (p.scan (pos + 1) (some x) (w ++ rest) w.length []).length + 1 = _
    rw [scan_skip, getLast?_cons_or, ← hpos]
    rfl

/-- What is counted can be found. -/
theorem finds_countFrom (hp : p.Orderly) (pos : Nat) (before : Option Char) (rest : List Char) :
    Finds p before rest (p.countFrom pos before rest) := by
  generalize hlen : rest.length = len
  induction len using Nat.strongRecOn generalizing pos before rest with
  | ind len ih =>
    cases rest with
    | nil =>
      rw [countFrom_nil hp]
      exact .stop before []
    | cons x r =>
      cases hmatch : p.matchAt? ⟨pos, before, x :: r⟩ with
      | none =>
        rw [countFrom_of_none hmatch]
        exact .skip (ih r.length (by simp [← hlen]) _ _ r rfl)
      | some found =>
        obtain ⟨w, rest, hcut, hw, hcount⟩ := countFrom_of_some hp hmatch
        have hshort : rest.length < len := hlen ▸ hp.length_lt hw hcut
        rw [hcount, hcut]
        exact .take hw (ih rest.length hshort _ _ rest rfl)

/-- No more can be found than what is counted. -/
theorem Finds.le_countFrom (hp : p.Orderly) (pos : Nat) (h : Finds p before s n) :
    n ≤ p.countFrom pos before s := by
  generalize hlen : s.length = len
  induction len using Nat.strongRecOn generalizing pos before s n with
  | ind len ih =>
    cases s with
    | nil =>
      rw [h.eq_zero_of_nil hp]
      exact Nat.zero_le _
    | cons x r =>
      cases hmatch : p.matchAt? ⟨pos, before, x :: r⟩ with
      | none =>
        rw [countFrom_of_none hmatch]
        generalize hs : x :: r = s at h
        cases h with
        | stop => exact Nat.zero_le _
        | skip h =>
          obtain ⟨rfl, rfl⟩ := List.cons.inj hs
          exact ih r.length (by simp [← hlen]) _ h rfl
        | take hw => exact absurd hw (matchAt?_eq_none_iff.mp hmatch _ _ hs)
      | some found =>
        obtain ⟨w, rest, hcut, hw, hcount⟩ := countFrom_of_some hp hmatch
        rw [hcount]
        cases n with
        | zero => exact Nat.zero_le _
        | succ n =>
          rw [hcut] at h
          have hshort : rest.length < len := hlen ▸ hp.length_lt hw hcut
          have hafter := h.after_first hp hw
          exact Nat.succ_le_succ (ih rest.length hshort _ hafter rfl)

/-- **The most matches are counted.** The search from left to right finds as many matches, one after
the other, as there are. -/
theorem count_isGreatest (hp : p.Orderly) (s : List Char) :
    IsGreatest {n | Finds p none s n} (p.count s) := by
  constructor
  · exact finds_countFrom hp 0 none s
  · intro n hn
    exact Finds.le_countFrom hp 0 hn

/-! ## Lines -/

/-- Whether a character, if there is one, is part of a word. -/
def isInWord (x : Option Char) : Bool :=
  (x.map Text.isWord).getD false

theorem isInWord_newline : isInWord (some '\n') = isInWord none := rfl

theorem isInWord_or {x y : Option Char} (h : isInWord x = isInWord y) (z : Option Char) :
    isInWord (z.or x) = isInWord (z.or y) := by
  cases z with
  | none => exact h
  | some z => rfl

/-- The pattern asks of what is around a match only whether it is part of a word. -/
def asksForWords : Pattern → Bool
  | cat p q => p.asksForWords && q.asksForWords
  | either p q => p.asksForWords && q.asksForWords
  | maybe p => p.asksForWords
  | capture _ p => p.asksForWords
  | lineStart | textStart | textEnd => false
  | _ => true

theorem takes_congr (hp : p.asksForWords = true) (hbefore : isInWord before = isInWord before')
    (hrest : isInWord rest.head? = isInWord rest'.head?) :
    p.Takes before w rest ↔ p.Takes before' w rest' := by
  induction p generalizing before before' w rest rest' with
  | cat p q ihp ihq =>
    obtain ⟨hp, hq⟩ := Bool.and_eq_true_iff.mp hp
    refine exists_congr fun u => exists_congr fun v => and_congr_right fun _ => and_congr ?_ ?_
    · apply ihp hp hbefore
      rw [List.head?_append, List.head?_append]
      exact isInWord_or hrest v.head?
    · exact ihq hq (isInWord_or hbefore u.getLast?) hrest
  | either p q ihp ihq =>
    obtain ⟨hp, hq⟩ := Bool.and_eq_true_iff.mp hp
    exact or_congr (ihp hp hbefore hrest) (ihq hq hbefore hrest)
  | maybe p ih => exact or_congr_left (ih hp hbefore hrest)
  | capture n p ih => exact ih hp hbefore hrest
  | boundary =>
    have hplace : (⟨0, before, rest⟩ : Cursor).atBoundary =
        (⟨0, before', rest'⟩ : Cursor).atBoundary := congrArg₂ bne hbefore hrest
    exact and_congr_right fun _ => by rw [hplace]
  | lineStart | textStart | textEnd => cases hp
  | nothing | one | run => exact Iff.rfl

namespace Finds

theorem congr (hp : p.asksForWords = true) (hbefore : isInWord before = isInWord before')
    (h : Finds p before s n) : Finds p before' s n := by
  induction h generalizing before' with
  | stop => exact .stop before' _
  | skip h => exact .skip h
  | take hw _ ih =>
    have hw' := (takes_congr hp hbefore rfl).mp hw
    exact .take hw' (ih (isInWord_or hbefore _))

/-- What is found in a line and in the text after it is found in both together. -/
theorem join (hp : p.asksForWords = true) (hs : Finds p before s m) (ht : Finds p none t n) :
    Finds p before (s ++ '\n' :: t) (m + n) := by
  induction hs with
  | stop before s =>
    have htail : Finds p (some '\n') t n := ht.congr hp isInWord_newline.symm
    rw [Nat.zero_add]
    exact (Finds.skip htail).skips s
  | skip _ ih => exact .skip ih
  | @take before w rest k hw _ ih =>
    have hhead : isInWord rest.head? = isInWord (rest ++ '\n' :: t).head? := by
      cases rest with
      | nil => rfl
      | cons x rest => rfl
    have hw' := (takes_congr hp rfl hhead).mp hw
    rw [List.append_assoc, Nat.add_right_comm]
    exact .take hw' ih

/-- What is found in a line and the text after it is found in one or in the other, as long as no
match takes the newline between them. -/
theorem split (hp : p.asksForWords = true)
    (hline : ∀ {before w rest}, p.Takes before w rest → '\n' ∉ w)
    (h : Finds p before (s ++ '\n' :: t) n) :
    ∃ i j, n = i + j ∧ Finds p before s i ∧ Finds p none t j := by
  generalize hjoined : s ++ '\n' :: t = joined at h
  induction h generalizing s with
  | stop before => exact ⟨0, 0, rfl, .stop before s, .stop none t⟩
  | @skip before x rest n h ih =>
    cases s with
    | nil =>
      obtain ⟨rfl, rfl⟩ := List.cons.inj hjoined
      exact ⟨0, n, (Nat.zero_add n).symm, .stop before [],
        h.congr hp isInWord_newline⟩
    | cons y s =>
      obtain ⟨rfl, hrest⟩ := List.cons.inj hjoined
      obtain ⟨i, j, hn, hi, hj⟩ := ih hrest
      exact ⟨i, j, hn, .skip hi, hj⟩
  | @take before w rest n hw h ih =>
    have hcut : ∃ s', s = w ++ s' ∧ s' ++ '\n' :: t = rest := by
      rcases List.append_eq_append_iff.mp hjoined with ⟨z, hwz, hz⟩ | ⟨s', hs, hrest⟩
      · cases z with
        | nil => exact ⟨[], by simpa using hwz.symm, hz⟩
        | cons x z =>
          obtain ⟨rfl, _⟩ := List.cons.inj hz
          exact absurd (by simp [hwz]) (hline hw)
      · exact ⟨s', hs, hrest.symm⟩
    obtain ⟨s', rfl, hrest⟩ := hcut
    obtain ⟨i, j, hn, hi, hj⟩ := ih hrest
    have hhead : isInWord rest.head? = isInWord s'.head? := by
      rw [← hrest]
      cases s' with
      | nil => rfl
      | cons x s' => rfl
    have hw' := (takes_congr hp rfl hhead).mp hw
    exact ⟨i + 1, j, by omega, .take hw' hi, hj⟩

end Finds

theorem count_add_le (hp : p.Orderly) (hwords : p.asksForWords = true) (s t : List Char) :
    p.count s + p.count t ≤ p.count (s ++ '\n' :: t) := by
  have hs := (count_isGreatest hp s).1
  have ht := (count_isGreatest hp t).1
  exact (count_isGreatest hp (s ++ '\n' :: t)).2 (Finds.join hwords hs ht)

theorem count_join (hp : p.Orderly) (hwords : p.asksForWords = true)
    (hline : ∀ {before w rest}, p.Takes before w rest → '\n' ∉ w) (s t : List Char) :
    p.count (s ++ '\n' :: t) = p.count s + p.count t := by
  apply Nat.le_antisymm
  · obtain ⟨i, j, hcount, hi, hj⟩ :=
      Finds.split hwords hline (count_isGreatest hp (s ++ '\n' :: t)).1
    have hs := (count_isGreatest hp s).2 hi
    have ht := (count_isGreatest hp t).2 hj
    omega
  · exact count_add_le hp hwords s t

/-- The lines of a text have no more matches together than the text. -/
theorem sum_count_le (hp : p.Orderly) (hwords : p.asksForWords = true)
    (lines : List (List Char)) :
    (lines.map p.count).sum ≤ p.count (['\n'].intercalate lines) := by
  induction lines with
  | nil => exact Nat.zero_le _
  | cons line rest ih =>
    cases rest with
    | nil => simp
    | cons next rest =>
      have hjoined := count_add_le hp hwords line (['\n'].intercalate (next :: rest))
      rw [List.intercalate_cons_cons, List.map_cons, List.sum_cons, List.append_assoc,
        List.singleton_append]
      omega

/-- The lines of a text have the matches of the text among them, if no match takes a newline. -/
theorem count_intercalate (hp : p.Orderly) (hwords : p.asksForWords = true)
    (hline : ∀ {before w rest}, p.Takes before w rest → '\n' ∉ w) (lines : List (List Char)) :
    p.count (['\n'].intercalate lines) = (lines.map p.count).sum := by
  induction lines with
  | nil => exact countFrom_nil hp 0 none
  | cons line rest ih =>
    cases rest with
    | nil => simp
    | cons next rest =>
      rw [List.intercalate_cons_cons, List.append_assoc, List.singleton_append,
        count_join hp hwords hline, ih]
      rfl

/-! ## Alternatives -/

/-- No match of the first pattern stands inside one of the second that goes on after it. -/
def StandsClear (p q : Pattern) : Prop :=
  ∀ {before u v z rest}, q.Takes before (u ++ v ++ z) rest →
    p.Takes (u.getLast?.or before) v (z ++ rest) → z = []

theorem takes_anyOf_iff {ps : List Pattern} :
    (anyOf ps).Takes before w rest ↔ ∃ p ∈ ps, p.Takes before w rest := by
  induction ps with
  | nil => simp [anyOf, Takes, CharClass.mem]
  | cons p ps ih =>
    cases ps with
    | nil => simp [anyOf]
    | cons q ps =>
      rw [List.exists_mem_cons_iff, ← ih]
      exact Iff.rfl

/-- Alternatives are orderly together if each takes something and they stand clear of each other. -/
theorem orderly_anyOf {ps : List Pattern}
    (hsome : ∀ p ∈ ps, p.takesOther (fun _ => false) = true)
    (hclear : ∀ p ∈ ps, ∀ q ∈ ps, StandsClear p q) : (anyOf ps).Orderly where
  ne_nil h := by
    obtain ⟨p, hp, hw⟩ := takes_anyOf_iff.mp h
    obtain ⟨x, hx, _⟩ := hw.exists_other (hsome p hp)
    exact List.ne_nil_of_mem hx
  inside hwhole hpart := by
    obtain ⟨q, hq, hwhole⟩ := takes_anyOf_iff.mp hwhole
    obtain ⟨p, hp, hpart⟩ := takes_anyOf_iff.mp hpart
    exact hclear p hp q hq hwhole hpart

/-- The classes of the characters that a pattern takes. -/
def classes : Pattern → List CharClass
  | one s => [s]
  | run s _ _ => [s]
  | cat p q => p.classes ++ q.classes
  | either p q => p.classes ++ q.classes
  | maybe p => p.classes
  | capture _ p => p.classes
  | _ => []

theorem Takes.exists_class (h : p.Takes before w rest) {x : Char} (hx : x ∈ w) :
    ∃ s ∈ p.classes, s.mem x = true := by
  induction p generalizing before w rest with
  | one s =>
    obtain ⟨y, rfl, hy⟩ := h
    obtain rfl := List.mem_singleton.mp hx
    exact ⟨s, List.mem_singleton_self s, hy⟩
  | run s least greedy => exact ⟨s, List.mem_singleton_self s, h.2 x hx⟩
  | cat p q ihp ihq =>
    obtain ⟨u, v, rfl, hu, hv⟩ := h
    rcases List.mem_append.mp hx with hx | hx
    · obtain ⟨s, hs, hmem⟩ := ihp hu hx
      exact ⟨s, List.mem_append_left _ hs, hmem⟩
    · obtain ⟨s, hs, hmem⟩ := ihq hv hx
      exact ⟨s, List.mem_append_right _ hs, hmem⟩
  | either p q ihp ihq =>
    rcases h with h | h
    · obtain ⟨s, hs, hmem⟩ := ihp h hx
      exact ⟨s, List.mem_append_left _ hs, hmem⟩
    · obtain ⟨s, hs, hmem⟩ := ihq h hx
      exact ⟨s, List.mem_append_right _ hs, hmem⟩
  | maybe p ih =>
    rcases h with h | rfl
    · exact ih h hx
    · cases hx
  | capture n p ih => exact ih h hx
  | nothing =>
    obtain rfl := h
    cases hx
  | boundary | lineStart | textStart | textEnd =>
    obtain ⟨rfl, _⟩ := h
    cases hx

/-- The number of characters of every match, if they all have the same. -/
def width? : Pattern → Option Nat
  | one _ => some 1
  | run _ _ _ => none
  | cat p q => p.width?.bind fun m => q.width?.map fun n => m + n
  | either p q => if p.width? = q.width? then p.width? else none
  | maybe _ => none
  | capture _ p => p.width?
  | _ => some 0

theorem Takes.length_eq (h : p.Takes before w rest) (hn : p.width? = some n) : w.length = n := by
  induction p generalizing before w rest n with
  | one s =>
    obtain ⟨x, rfl, _⟩ := h
    exact Option.some.inj hn
  | run | maybe => cases hn
  | cat p q ihp ihq =>
    obtain ⟨u, v, rfl, hu, hv⟩ := h
    obtain ⟨i, hi, hn⟩ := Option.bind_eq_some_iff.mp hn
    obtain ⟨j, hj, rfl⟩ := Option.map_eq_some_iff.mp hn
    rw [List.length_append, ihp hu hi, ihq hv hj]
  | either p q ihp ihq =>
    rw [width?] at hn
    split at hn
    · rename_i hsame
      rcases h with h | h
      · exact ihp h hn
      · exact ihq h (hsame ▸ hn)
    · cases hn
  | capture k p ih => exact ih h hn
  | nothing =>
    obtain rfl := h
    exact Option.some.inj hn
  | boundary | lineStart | textStart | textEnd =>
    obtain ⟨rfl, _⟩ := h
    exact Option.some.inj hn

/-- The first pattern has to take a character that the second cannot take, or the matches of both
have one length. -/
def isClearOf (p q : Pattern) : Bool :=
  p.takesOther (fun x => q.classes.any fun s => s.mem x) ||
    (p.width?.isSome && p.width? == q.width?)

theorem standsClear_of_isClearOf (h : p.isClearOf q = true) : StandsClear p q := by
  intro before u v z rest hwhole hpart
  rcases Bool.or_eq_true_iff.mp h with hother | hwidth
  · obtain ⟨x, hx, hnone⟩ := hpart.exists_other hother
    obtain ⟨s, hs, hmem⟩ := hwhole.exists_class (x := x) (by simp [hx])
    have hall := List.any_eq_false.mp hnone s hs
    exact absurd hmem hall
  · obtain ⟨hsome, hsame⟩ := Bool.and_eq_true_iff.mp hwidth
    obtain ⟨k, hk⟩ := Option.isSome_iff_exists.mp hsome
    have hv := hpart.length_eq hk
    have hall := hwhole.length_eq ((eq_of_beq hsame).symm.trans hk)
    rw [List.length_append, List.length_append] at hall
    exact List.eq_nil_of_length_eq_zero (by omega)

end Assay.Pattern
