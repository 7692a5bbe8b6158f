import Mathlib.Data.List.TakeWhile
import Assay.Text.Basic
import Assay.Text.Lower

/-!
# Texts up to blanks and case

* `Trims`: one text is another without the blanks around it; `trims_iff` says that this is what
  `strip` finds;
* `strip_pad`, `strip_blank`, `strip_ne_nil`: more blanks around a text, and nothing else in it;
* `lower_eq_iff`: a text has a given lower case letter by letter, where nothing above ASCII comes
  into it;
* `Spells`: a text is a name with blanks around it, in capitals or not.
-/

namespace Assay.Text

/-! ## Blanks -/

/-- The second text is the first without the blanks around it. -/
structure Trims (s t : List Char) : Prop where
  cut : ∃ before after, s = before ++ t ++ after ∧ (∀ c ∈ before, isBlank c = true) ∧
    ∀ c ∈ after, isBlank c = true
  first : ∀ c ∈ t.head?, isBlank c = false
  last : ∀ c ∈ t.getLast?, isBlank c = false

/-- Dropping stops at the first character that is no blank. -/
theorem dropWhile_blanks {before s : List Char} (hbefore : ∀ c ∈ before, isBlank c = true)
    (hs : ∀ c ∈ s.head?, isBlank c = false) : (before ++ s).dropWhile isBlank = s := by
  rw [List.dropWhile_append_of_pos hbefore]
  cases s with
  | nil => rfl
  | cons c s => simp [hs c (by simp)]

theorem head?_dropWhile_blanks (s : List Char) :
    ∀ c ∈ (s.dropWhile isBlank).head?, isBlank c = false := by
  intro c hc
  have h := List.head?_dropWhile_not isBlank s
  rw [Option.mem_def.mp hc] at h
  simpa using h

theorem exists_blanks_before (s : List Char) :
    ∃ before, s = before ++ s.dropWhile isBlank ∧ ∀ c ∈ before, isBlank c = true :=
  ⟨s.takeWhile isBlank, List.takeWhile_append_dropWhile.symm,
    fun _ hc => List.mem_takeWhile_imp hc⟩

theorem trims_strip (s : List Char) : Trims s (strip s) := by
  obtain ⟨before, hs, hbefore⟩ := exists_blanks_before s
  obtain ⟨after, hrest, hafter⟩ := exists_blanks_before (s.dropWhile isBlank).reverse
  have hcut : s.dropWhile isBlank = strip s ++ after.reverse := by
    have h := congrArg List.reverse hrest
    rwa [List.reverse_reverse, List.reverse_append] at h
  refine ⟨⟨before, after.reverse, ?_, hbefore, ?_⟩, ?_, ?_⟩
  · rw [List.append_assoc, ← hcut]
    exact hs
  · exact fun c hc => hafter c (List.mem_reverse.mp hc)
  · intro c hc
    refine head?_dropWhile_blanks s c ?_
    rw [hcut, List.head?_append, Option.mem_def.mp hc]
    rfl
  · intro c hc
    have h : c ∈ ((s.dropWhile isBlank).reverse.dropWhile isBlank).head? := by
      rw [← List.getLast?_reverse]
      exact hc
    exact head?_dropWhile_blanks _ c h

theorem Trims.strip_eq {s t : List Char} (h : Trims s t) : strip s = t := by
  obtain ⟨before, after, rfl, hbefore, hafter⟩ := h.cut
  cases t with
  | nil =>
    have hall : ∀ c ∈ before ++ [] ++ after, isBlank c = true := by
      simpa [or_imp, forall_and] using ⟨hbefore, hafter⟩
    have hstart : stripStart (before ++ [] ++ after) = [] := List.dropWhile_eq_nil_iff.mpr hall
    rw [strip, hstart]
    rfl
  | cons d t =>
    have hstart : stripStart (before ++ d :: t ++ after) = d :: t ++ after := by
      rw [List.append_assoc]
      exact dropWhile_blanks hbefore h.first
    have hend : (after.reverse ++ (d :: t).reverse).dropWhile isBlank = (d :: t).reverse := by
      refine dropWhile_blanks (fun c hc => hafter c (List.mem_reverse.mp hc)) ?_
      rw [List.head?_reverse]
      exact h.last
    rw [strip, hstart, stripEnd, List.reverse_append, hend, List.reverse_reverse]

theorem trims_iff {s t : List Char} : Trims s t ↔ strip s = t :=
  ⟨Trims.strip_eq, fun h => h ▸ trims_strip s⟩

/-- Blanks around a text are taken away with its own. -/
theorem strip_pad {before text after : List Char} (hbefore : ∀ c ∈ before, isBlank c = true)
    (hafter : ∀ c ∈ after, isBlank c = true) :
    strip (before ++ text ++ after) = strip text := by
  have htext := trims_strip text
  obtain ⟨a, b, hcut, ha, hb⟩ := htext.cut
  refine Trims.strip_eq ⟨⟨before ++ a, b ++ after, ?_, ?_, ?_⟩, htext.first, htext.last⟩
  · calc before ++ text ++ after = before ++ (a ++ strip text ++ b) ++ after := by rw [← hcut]
      _ = before ++ a ++ strip text ++ (b ++ after) := by simp only [List.append_assoc]
  · exact List.forall_mem_append.mpr ⟨hbefore, ha⟩
  · exact List.forall_mem_append.mpr ⟨hb, hafter⟩

theorem strip_blank {s : List Char} (h : ∀ c ∈ s, isBlank c = true) : strip s = [] := by
  apply Trims.strip_eq
  refine ⟨⟨s, [], by simp, h, by simp⟩, by simp, by simp⟩

theorem strip_ne_nil {text : List Char} (h : ∃ c ∈ text, isBlank c = false) :
    strip text ≠ [] := by
  intro hnil
  obtain ⟨c, hc, hblank⟩ := h
  obtain ⟨a, b, hcut, ha, hb⟩ := (trims_strip text).cut
  rw [hnil, List.append_nil] at hcut
  rw [hcut] at hc
  have hall : isBlank c = true := List.forall_mem_append.mpr ⟨ha, hb⟩ c hc
  rw [hblank] at hall
  cases hall

/-! ## Case -/

/-- A character that is the lower case of nothing above ASCII: all of ASCII is but for one letter,
which the sign of the Kelvin has as its lower case too. -/
def IsOwnCase (c : Char) : Prop :=
  c.toNat < 128 ∧ c ≠ 'k'

instance (c : Char) : Decidable (IsOwnCase c) :=
  inferInstanceAs (Decidable (_ ∧ _))

/-- A row of the mapping into lower case stays above ASCII, but for that of the Kelvin. -/
theorem lowerRows_above : ∀ row ∈ lowerRows, row = (0x212A, 0x212A, 1, -8383) ∨
    (128 ≤ (row.1 : Int) + row.2.2.2 ∧
      ((row.2.1 : Int) + row.2.2.2 < 0xD800 ∨
        (0xDFFF < (row.1 : Int) + row.2.2.2 ∧ (row.2.1 : Int) + row.2.2.2 < 0x110000))) := by
  decide +kernel

theorem toNat_ofNat {n : Nat} (h : n.isValidChar) : (Char.ofNat n).toNat = n := by
  rw [Char.ofNat, dif_pos h]
  rfl

theorem toLower_above {c : Char} (h : 128 ≤ c.toNat) : c.toLower = c := by
  unfold Char.toLower
  refine dif_neg ?_
  rintro ⟨_, hc⟩
  have : c.toNat ≤ 90 := UInt32.le_iff_toNat_le.mp hc
  omega

theorem lowerChar_above {c : Char} (h : 128 ≤ c.toNat) : ¬ IsOwnCase (lowerChar c) := by
  unfold lowerChar
  rw [if_neg (by omega)]
  dsimp only
  split
  · rename_i a b step d hrow
    have hmem := lowerRows_above _ (List.mem_of_find?_eq_some hrow)
    have hin := List.find?_some hrow
    simp only [Bool.and_eq_true, decide_eq_true_eq] at hin
    rcases hmem with hkelvin | ⟨hlow, hvalid⟩
    · obtain ⟨rfl, rfl, rfl, rfl⟩ : a = 0x212A ∧ b = 0x212A ∧ step = 1 ∧ d = -8383 := by
        simpa using hkelvin
      have hc : c.toNat = 0x212A := by omega
      rw [hc]
      exact fun hk => hk.2 rfl
    · dsimp only at hlow hvalid
      have hchar : Nat.isValidChar ((c.toNat : Int) + d).toNat := by
        simp only [Nat.isValidChar]
        omega
      rintro ⟨hlt, _⟩
      rw [toNat_ofNat hchar] at hlt
      omega
  · exact fun hc => Nat.not_le_of_lt hc.1 h

theorem lowerChar_iff {c d : Char} (hd : IsOwnCase d) : lowerChar c = d ↔ c.toLower = d := by
  by_cases hc : c.toNat < 128
  · rw [lowerChar, if_pos hc]
  · have habove : 128 ≤ c.toNat := Nat.le_of_not_lt hc
    refine iff_of_false ?_ ?_
    · rintro rfl
      exact lowerChar_above habove hd
    · rintro rfl
      rw [toLower_above habove] at hd
      exact hc hd.1

theorem lowerAfter_iff {s t : List Char} (ht : ∀ d ∈ t, IsOwnCase d) (inWord : Bool) :
    lowerAfter inWord s = t ↔ s.map Char.toLower = t := by
  induction s generalizing inWord t with
  | nil => rfl
  | cons c s ih =>
    have habove {d : Char} {ds : List Char} (hd : 128 ≤ d.toNat) : d :: ds ≠ t := by
      rintro rfl
      exact Nat.not_le_of_lt (ht d (by simp)).1 hd
    have hmapped (hc : 128 ≤ c.toNat) : (c :: s).map Char.toLower ≠ t := by
      rw [List.map_cons, toLower_above hc]
      exact habove hc
    rw [lowerAfter]
    split
    · rename_i hi
      have hc : c.toNat = 0x130 := beq_iff_eq.mp hi
      refine iff_of_false ?_ (hmapped (by omega))
      rintro rfl
      exact absurd (ht (Char.ofNat 0x307) (by simp)).1 (by decide)
    · split
      · rename_i hsigma
        have hc : c.toNat = 0x3A3 := beq_iff_eq.mp hsigma
        refine iff_of_false ?_ (hmapped (by omega))
        split
        · exact habove (by decide)
        · exact habove (by decide)
      · cases t with
        | nil => simp
        | cons d t =>
          rw [List.forall_mem_cons] at ht
          simp only [List.cons_append, List.nil_append, List.map_cons, List.cons.injEq]
          rw [lowerChar_iff ht.1, ih ht.2]

/-- A text has a lower case letter by letter, where nothing above ASCII comes into it. -/
theorem lower_eq_iff {s t : List Char} (ht : ∀ d ∈ t, IsOwnCase d) :
    lower s = t ↔ s.map Char.toLower = t :=
  lowerAfter_iff ht false

/-- A text spells a name, with blanks around it and in capitals or not. -/
def Spells (s name : String) : Prop :=
  ∃ t, Trims s.toList t ∧ t.map Char.toLower = name.toList

theorem spells_iff {s name : String} (hname : ∀ c ∈ name.toList, IsOwnCase c) :
    Spells s name ↔ String.ofList (lower (strip s.toList)) = name := by
  rw [← String.toList_inj, String.toList_ofList, lower_eq_iff hname]
  simp [Spells, trims_iff]

end Assay.Text
