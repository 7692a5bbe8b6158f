import Mathlib.Data.List.TakeWhile
import Assay.Text.Numeral

/-!
# Texts that pass for numbers

A text of numerals looks like a number, but some numerals merely stand for a digit and have no
decimal value.

* `isWord_eq_false_of_isBlank`, `isNumeral_eq_false_of_isBlank`: no blank stands in a word, nor is it
  a numeral;
* `digitsOf_numerals`: from numerals, the leading decimal digits are read;
* `readInt_numerals`: a text of numerals spells an integer exactly if all of them are decimal
  digits and there are not too many;
* `readInt_decimals`: that integer is the one of its digits.
-/

namespace Assay.Text

/-- The codes of all blanks. -/
def blankCodes : List Nat :=
  [9, 10, 11, 12, 13, 28, 29, 30, 31, 32, 0x85, 0xA0, 0x1680, 0x2000, 0x2001, 0x2002, 0x2003,
    0x2004, 0x2005, 0x2006, 0x2007, 0x2008, 0x2009, 0x200A, 0x2028, 0x2029, 0x202F, 0x205F,
    0x3000]

theorem mem_blankCodes {c : Char} (h : isBlank c = true) : c.toNat ∈ blankCodes := by
  simp only [isBlank, Bool.or_eq_true, Bool.and_eq_true, decide_eq_true_eq, beq_iff_eq] at h
  simp only [blankCodes, List.mem_cons, List.not_mem_nil, or_false]
  omega

theorem blankCodes_apart :
    ∀ n ∈ blankCodes, isWord (Char.ofNat n) = false ∧ isNumeral (Char.ofNat n) = false := by
  decide +kernel

theorem isWord_eq_false_of_isBlank {c : Char} (h : isBlank c = true) : isWord c = false := by
  have hc := (blankCodes_apart c.toNat (mem_blankCodes h)).1
  rwa [Char.ofNat_toNat] at hc

theorem isBlank_eq_false_of_isWord {c : Char} (h : isWord c = true) : isBlank c = false := by
  by_contra hblank
  rw [isWord_eq_false_of_isBlank (eq_true_of_ne_false hblank)] at h
  cases h

theorem isNumeral_eq_false_of_isBlank {c : Char} (h : isBlank c = true) : isNumeral c = false := by
  have hc := (blankCodes_apart c.toNat (mem_blankCodes h)).2
  rwa [Char.ofNat_toNat] at hc

theorem isBlank_eq_false_of_isNumeral {c : Char} (h : isNumeral c = true) : isBlank c = false := by
  cases hb : isBlank c
  · rfl
  · rw [isNumeral_eq_false_of_isBlank hb] at h
    cases h

theorem isNumeral_of_isDecimal {c : Char} (h : isDecimal c = true) : isNumeral c = true := by
  simp [isNumeral, h]

theorem not_isNumberBlank_of_isNumeral {c : Char} (h : isNumeral c = true) :
    isNumberBlank c = false := by
  simp [isNumberBlank, isBlank_eq_false_of_isNumeral h]

theorem ne_of_isNumeral {c d : Char} (hc : isNumeral c = true) (hd : isNumeral d = false) :
    c ≠ d := by
  rintro rfl
  rw [hd] at hc
  cases hc

theorem signs_no_numeral :
    isNumeral '-' = false ∧ isNumeral '+' = false ∧ isNumeral '_' = false := by
  decide

theorem dropWhile_eq_self_of_all {p : Char → Bool} {s : List Char} (h : ∀ c ∈ s, p c = false) :
    s.dropWhile p = s := by
  cases s with
  | nil => rfl
  | cons c s => simp [h c (by simp)]

theorem stripNumber_numerals {s : List Char} (h : ∀ c ∈ s, isNumeral c = true) :
    stripNumber s = s := by
  have hs : ∀ c ∈ s, isNumberBlank c = false := fun c hc => not_isNumberBlank_of_isNumeral (h c hc)
  have hr : ∀ c ∈ s.reverse, isNumberBlank c = false := fun c hc => hs c (List.mem_reverse.mp hc)
  rw [stripNumber, dropWhile_eq_self_of_all hs, dropWhile_eq_self_of_all hr, List.reverse_reverse]

theorem signOf_numerals {s : List Char} (h : ∀ c ∈ s, isNumeral c = true) :
    signOf s = (false, s) := by
  unfold signOf
  split
  · exact absurd rfl (ne_of_isNumeral (h '-' (by simp)) signs_no_numeral.1)
  · exact absurd rfl (ne_of_isNumeral (h '+' (by simp)) signs_no_numeral.2.1)
  · rfl

/-- Reading digits from numerals stops at the first that has no decimal value. -/
theorem digitsOf_numerals {s : List Char} (h : ∀ c ∈ s, isNumeral c = true) (after : Bool) :
    (digitsOf after s).1.length = (s.takeWhile isDecimal).length ∧
      (digitsOf after s).2 = s.dropWhile isDecimal := by
  induction s generalizing after with
  | nil => exact ⟨rfl, rfl⟩
  | cons c s ih =>
    have hs := ih (fun d hd => h d (List.mem_cons_of_mem c hd)) true
    cases hv : decimalValue? c with
    | some d =>
      have hd : isDecimal c = true := by simp [isDecimal, hv]
      simp only [digitsOf, hv, List.length_cons, List.takeWhile_cons, List.dropWhile_cons, hd,
        if_true, hs, and_self]
    | none =>
      have hd : isDecimal c = false := by simp [isDecimal, hv]
      have hu : c ≠ '_' := ne_of_isNumeral (h c (by simp)) signs_no_numeral.2.2
      simp [digitsOf, hv, hd, hu]

theorem breaksOff_numerals {ds : List Nat} {s : List Char} (h : ∀ c ∈ s, isNumeral c = true) :
    breaksOff ds s = ds.isEmpty := by
  cases s with
  | nil => simp [breaksOff]
  | cons c s =>
    have hu : c ≠ '_' := ne_of_isNumeral (h c (by simp)) signs_no_numeral.2.2
    simp [breaksOff, hu]

/-- A text of numerals spells an integer exactly if all of them are decimal digits and there are
not too many. -/
theorem readInt_numerals {s : List Char} (hs : s ≠ []) (h : ∀ c ∈ s, isNumeral c = true) :
    (∃ n, readInt (String.ofList s) = .ok n) ↔
      (∀ c ∈ s, isDecimal c = true) ∧ s.length ≤ Json.maxDigits := by
  obtain ⟨hlen, hrest⟩ := digitsOf_numerals h false
  have hr : ∀ c ∈ s.dropWhile isDecimal, isNumeral c = true :=
    fun c hc => h c ((List.dropWhile_suffix isDecimal).subset hc)
  simp only [readInt, String.toList_ofList, stripNumber_numerals h, signOf_numerals h, hrest,
    breaksOff_numerals hr, ← List.dropWhile_eq_nil_iff (l := s)]
  cases hd : s.dropWhile isDecimal with
  | nil =>
    have hall : s.takeWhile isDecimal = s := by
      simpa [hd] using List.takeWhile_append_dropWhile (p := isDecimal) (l := s)
    rw [hall] at hlen
    have hne : (digitsOf false s).1.isEmpty = false := by
      rw [← Bool.not_eq_true, List.isEmpty_iff_length_eq_zero, hlen]
      exact fun h0 => hs (List.eq_nil_of_length_eq_zero h0)
    rw [hlen, hne]
    by_cases hm : Json.maxDigits < s.length
    · simp [hm]
    · simp [hm, Nat.le_of_not_lt hm]
  | cons c rest =>
    simp only [reduceCtorEq, false_and, iff_false, not_exists]
    intro n
    split
    · simp
    · split <;> simp

/-- Decimal digits are all read, each with its value. -/
theorem digitsOf_decimals {s : List Char} (h : ∀ c ∈ s, isDecimal c = true) (after : Bool) :
    digitsOf after s = (s.filterMap decimalValue?, []) := by
  induction s generalizing after with
  | nil => rfl
  | cons c s ih =>
    rw [List.forall_mem_cons] at h
    obtain ⟨d, hd⟩ := Option.isSome_iff_exists.mp h.1
    simp only [digitsOf, hd, ih h.2, List.filterMap_cons_some hd]

/-- A text that spells an integer by numerals spells that of its decimal digits. -/
theorem readInt_decimals {s : List Char} (hs : s ≠ []) (h : ∀ c ∈ s, isNumeral c = true) {n : Int}
    (hn : readInt (String.ofList s) = .ok n) :
    (∀ c ∈ s, isDecimal c = true) ∧ n = ofDigits (s.filterMap decimalValue?) := by
  have hdecimal := ((readInt_numerals hs h).mp ⟨n, hn⟩).1
  refine ⟨hdecimal, ?_⟩
  simp only [readInt, String.toList_ofList, stripNumber_numerals h, signOf_numerals h,
    digitsOf_decimals hdecimal] at hn
  split at hn
  · cases hn
  · split at hn
    · cases hn
    · simpa using hn.symm

end Assay.Text
