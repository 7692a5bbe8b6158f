import Mathlib.Algebra.Group.Nat.Defs
import Assay.Json.Printer
import Assay.Json.Reader

/-!
# Integers written and read back

* `Ends`: what follows a number does not go on with it;
* `readWord_int`: an integer of no more digits than may be is read back.
-/

namespace Assay.Json

/-- A text that no number goes on with. -/
def Ends (s : List Char) : Prop :=
  ∀ c r, s = c :: r → c.isDigit = false ∧ c ≠ '.' ∧ c ≠ 'e' ∧ c ≠ 'E'

theorem ends_nil : Ends [] := nofun

theorem natOfDigits_toDigits (n : Nat) : natOfDigits (Nat.toDigits 10 n) = n :=
  Nat.ofDigitChars_ten_toDigits

theorem isDigit_of_mem {n : Nat} {c : Char} (h : c ∈ Nat.toDigits 10 n) : c.isDigit = true :=
  Nat.isDigit_of_mem_toDigits (by decide) (by decide) h

/-- Only zero is written with a leading zero. -/
theorem toDigits_cons {n : Nat} (h : 0 < n) : ∃ c cs, Nat.toDigits 10 n = c :: cs ∧ c ≠ '0' := by
  induction n using Nat.strongRecOn with
  | ind n ih =>
    rw [Nat.toDigits_eq_if (by decide)]
    split
    · rename_i hlt
      have hne : ∀ k < 10, 0 < k → k.digitChar ≠ '0' := by decide
      exact ⟨_, [], rfl, hne n hlt h⟩
    · obtain ⟨c, cs, hdigits, hc⟩ := ih (n / 10) (by omega) (by omega)
      exact ⟨c, cs ++ [(n % 10).digitChar], by rw [hdigits, List.cons_append], hc⟩

theorem takeWhile_digits {ds rest : List Char} (hds : ∀ c ∈ ds, c.isDigit = true)
    (hrest : Ends rest) : (ds ++ rest).takeWhile Char.isDigit = ds := by
  rw [List.takeWhile_append_of_pos hds]
  cases rest with
  | nil => simp
  | cons c r => simp [(hrest c r rfl).1]

theorem readFraction_ends {rest : List Char} (h : Ends rest) : readFraction rest = ([], rest) := by
  unfold readFraction
  split
  · rename_i r
    exact absurd rfl (h '.' r rfl).2.1
  · rfl

theorem readExponent_ends {rest : List Char} (h : Ends rest) :
    readExponent rest = (none, rest) := by
  cases rest with
  | nil => rfl
  | cons c r =>
    obtain ⟨_, _, he, hE⟩ := h c r rfl
    simp [readExponent, he, hE]

theorem leadingDigits_toDigits (n : Nat) {rest : List Char} (hrest : Ends rest) :
    leadingDigits (Nat.toDigits 10 n ++ rest) = Nat.toDigits 10 n := by
  rcases Nat.eq_zero_or_pos n with rfl | hpos
  · rfl
  · obtain ⟨c, cs, hcons, hc⟩ := toDigits_cons hpos
    unfold leadingDigits
    split
    · rename_i heq
      rw [hcons] at heq
      exact absurd (List.cons.inj heq).1 hc
    · exact takeWhile_digits (fun _ hc => isDigit_of_mem hc) hrest

/-- A number is read back after its sign. -/
theorem readNumber_toDigits {n : Nat} (hn : n < 10 ^ maxDigits) {rest : List Char}
    (hrest : Ends rest) (whole : List Char) (negative : Bool) :
    readNumber whole negative (Nat.toDigits 10 n ++ rest) =
      .ok (int (if negative then -n else n), rest) := by
  have hlength : ¬ maxDigits < (Nat.toDigits 10 n).length :=
    Nat.not_lt.mpr ((Nat.length_toDigits_le_iff (by decide) (by decide)).mpr hn)
  simp only [readNumber, leadingDigits_toDigits n hrest, List.drop_left, readFraction_ends hrest,
    readExponent_ends hrest]
  simp [hlength, natOfDigits_toDigits]

theorem ne_of_isDigit {c d : Char} (hc : c.isDigit = true) (hd : d.isDigit = false) : d ≠ c := by
  rintro rfl
  rw [hc] at hd
  cases hd

/-- What starts with a digit is no word, -/
theorem readWord_digit {c : Char} (hc : c.isDigit = true) (s : List Char) :
    readWord (c :: s) = readNumber (c :: s) false (c :: s) := by
  have hne {d : Char} (hd : d.isDigit = false) : d ≠ c := ne_of_isDigit hc hd
  simp only [readWord, String.reduceToList, List.isPrefixOf, Bool.and_eq_true, beq_iff_eq,
    hne (d := 'n') rfl, hne (d := 't') rfl, hne (d := 'f') rfl, hne (d := 'N') rfl,
    hne (d := 'I') rfl, hne (d := '-') rfl, List.isPrefixOf_iff_prefix, false_and, if_false]
  split
  · rename_i heq
    exact absurd (List.cons.inj heq).1.symm (hne (d := '-') rfl)
  · rfl

/-- and neither is what starts with a sign and a digit. -/
theorem readWord_sign {c : Char} (hc : c.isDigit = true) (s : List Char) :
    readWord ('-' :: c :: s) = readNumber ('-' :: c :: s) true (c :: s) := by
  simp [readWord, List.isPrefixOf, ne_of_isDigit (d := 'I') hc rfl]

theorem toString_eq (n : Int) : (toString n).toList =
    if 0 ≤ n then Nat.toDigits 10 n.natAbs else '-' :: Nat.toDigits 10 n.natAbs := by
  rw [Int.toString_eq_repr, Int.repr_eq_if]
  split
  · rw [Nat.toList_repr, show n.toNat = n.natAbs by omega]
  · rw [String.toList_append, Nat.toList_repr, show (-n).toNat = n.natAbs by omega]
    rfl

theorem toDigits_digit (n : Nat) :
    ∃ c cs, Nat.toDigits 10 n = c :: cs ∧ c.isDigit = true := by
  obtain ⟨c, cs, hcons⟩ := List.exists_cons_of_ne_nil (Nat.toDigits_ne_nil (n := n) (b := 10))
  exact ⟨c, cs, hcons, isDigit_of_mem (n := n) (by simp [hcons])⟩

theorem toString_cons (n : Int) :
    ∃ c s, (toString n).toList = c :: s ∧ (c = '-' ∨ c.isDigit = true) := by
  obtain ⟨c, cs, hcons, hc⟩ := toDigits_digit n.natAbs
  rw [toString_eq]
  split
  · exact ⟨c, cs, hcons, Or.inr hc⟩
  · exact ⟨'-', _, rfl, Or.inl rfl⟩

/-- An integer of no more digits than may be is read back. -/
theorem readWord_int {n : Int} (hn : n.natAbs < 10 ^ maxDigits) {rest : List Char}
    (hrest : Ends rest) : readWord ((toString n).toList ++ rest) = .ok (int n, rest) := by
  obtain ⟨c, cs, hcons, hc⟩ := toDigits_digit n.natAbs
  have hread := readNumber_toDigits hn hrest
  rw [hcons, List.cons_append] at hread
  rw [toString_eq, hcons]
  split
  · rename_i hpos
    rw [List.cons_append, readWord_digit hc, hread, if_neg Bool.false_ne_true,
      Int.natAbs_of_nonneg hpos]
  · rename_i hneg
    rw [List.cons_append, List.cons_append, readWord_sign hc, hread, if_pos rfl,
      show -(n.natAbs : Int) = n by omega]

end Assay.Json
