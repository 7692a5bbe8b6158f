import Mathlib.Data.List.Basic
import Assay.Proofs.Pattern.Takes

/-!
# A character at the end of a text

Some characters can stand at the end of a text without any match being found or lost.

* `Pattern.endsOther`: every match of a pattern ends with another character;
* `Pattern.passesEnd`: the pattern does not ask where the text ends;
* `Pattern.occursIn_concat`: such a pattern occurs in a text with the character at its end if it
  occurs in the text.
-/

namespace Assay.Pattern

/-- Every match ends with a character other than `z`, or takes nothing if that is allowed. -/
def endsOther (z : Char) : Pattern → (orNothing : Bool) → Bool
  | one s, _ => !s.mem z
  | run s least _, orNothing => !s.mem z && (orNothing || 0 < least)
  | cat p q, orNothing => q.endsOther z false || (p.endsOther z orNothing && q.endsOther z true)
  | either p q, orNothing => p.endsOther z orNothing && q.endsOther z orNothing
  | maybe p, orNothing => p.endsOther z true && orNothing
  | capture _ p, orNothing => p.endsOther z orNothing
  | _, orNothing => orNothing

/-- The pattern does not ask where the text ends. -/
def passesEnd : Pattern → Bool
  | cat p q => p.passesEnd && q.passesEnd
  | either p q => p.passesEnd && q.passesEnd
  | maybe p => p.passesEnd
  | capture _ p => p.passesEnd
  | textEnd => false
  | _ => true

variable {p : Pattern} {z : Char} {before : Option Char}

/-- Two texts end with another character if the second does, or the first where there is no
second. -/
theorem getLast?_append_ne {u v : List Char} (hv : v.getLast? ≠ some z)
    (hu : v = [] → u.getLast? ≠ some z) : (u ++ v).getLast? ≠ some z := by
  by_cases hne : v = []
  · rw [hne, List.append_nil]
    exact hu hne
  · rw [List.getLast?_append_of_ne_nil _ hne]
    exact hv

theorem Takes.ends_other {orNothing : Bool} {w rest : List Char} (h : p.Takes before w rest)
    (hp : p.endsOther z orNothing = true) :
    w.getLast? ≠ some z ∧ (w = [] → orNothing = true) := by
  induction p generalizing before orNothing w rest with
  | one s =>
    obtain ⟨x, rfl, hx⟩ := h
    have hz : s.mem z = false := by simpa [endsOther] using hp
    refine ⟨?_, by simp⟩
    intro hlast
    obtain rfl : x = z := by simpa using hlast
    rw [hx] at hz
    cases hz
  | run s least greedy =>
    obtain ⟨hleast, hw⟩ := h
    obtain ⟨hz, hsome⟩ : s.mem z = false ∧ (orNothing = true ∨ 0 < least) := by
      simpa [endsOther] using hp
    constructor
    · intro hlast
      have hmem := hw z (List.mem_of_getLast? hlast)
      rw [hmem] at hz
      cases hz
    · rintro rfl
      exact hsome.resolve_right (Nat.not_lt_of_le hleast)
  | cat p q ihp ihq =>
    obtain ⟨u, v, rfl, hu, hv⟩ := h
    rcases Bool.or_eq_true_iff.mp hp with hq | hpq
    · -- The second part takes something, and what it takes ends otherwise.
      obtain ⟨hlast, hsome⟩ := ihq hv hq
      have hne : v ≠ [] := fun h => Bool.noConfusion (hsome h)
      constructor
      · exact getLast?_append_ne hlast fun h => absurd h hne
      · intro huv
        exact absurd (List.append_eq_nil_iff.mp huv).2 hne
    · obtain ⟨hp, hq⟩ := Bool.and_eq_true_iff.mp hpq
      obtain ⟨hulast, hu⟩ := ihp hu hp
      obtain ⟨hvlast, _⟩ := ihq hv hq
      constructor
      · exact getLast?_append_ne hvlast fun _ => hulast
      · intro huv
        exact hu (List.append_eq_nil_iff.mp huv).1
  | either p q ihp ihq =>
    obtain ⟨hp, hq⟩ := Bool.and_eq_true_iff.mp hp
    rcases h with h | h
    · exact ihp h hp
    · exact ihq h hq
  | maybe p ih =>
    obtain ⟨hp, hnothing⟩ := Bool.and_eq_true_iff.mp hp
    rcases h with h | rfl
    · exact ⟨(ih h hp).1, fun _ => hnothing⟩
    · exact ⟨by simp, fun _ => hnothing⟩
  | capture n p ih => exact ih h hp
  | nothing =>
    obtain rfl := h
    exact ⟨by simp, fun _ => hp⟩
  | boundary | lineStart | textStart | textEnd =>
    obtain ⟨rfl, _⟩ := h
    exact ⟨by simp, fun _ => hp⟩

/-- A character that is part of no word makes no difference after what a pattern takes. -/
theorem takes_concat_iff (hp : p.passesEnd = true) (hz : Text.isWord z = false)
    {w rest : List Char} : p.Takes before w (rest ++ [z]) ↔ p.Takes before w rest := by
  induction p generalizing before w rest with
  | cat p q ihp ihq =>
    obtain ⟨hp, hq⟩ := Bool.and_eq_true_iff.mp hp
    refine exists_congr fun u => exists_congr fun v => and_congr_right fun _ => ?_
    rw [← List.append_assoc, ihp hp, ihq hq]
  | either p q ihp ihq =>
    obtain ⟨hp, hq⟩ := Bool.and_eq_true_iff.mp hp
    exact or_congr (ihp hp) (ihq hq)
  | maybe p ih => exact or_congr_left (ih hp)
  | capture n p ih => exact ih hp
  | boundary =>
    have hplace : (⟨0, before, rest ++ [z]⟩ : Cursor).atBoundary =
        (⟨0, before, rest⟩ : Cursor).atBoundary := by
      cases rest with
      | nil => simp [Cursor.atBoundary, hz]
      | cons x rest => rfl
    exact and_congr_right fun _ => by rw [hplace]
  | textEnd => cases hp
  | nothing | one | run | lineStart | textStart => exact Iff.rfl

/-- **A character at the end of a text.** It is part of no word, no match ends with it, and the
pattern does not ask for the end of the text: then the pattern occurs with the character if it
occurs without. -/
theorem occursIn_concat (hother : p.endsOther z false = true) (hpasses : p.passesEnd = true)
    (hz : Text.isWord z = false) (s : List Char) : p.occursIn (s ++ [z]) = p.occursIn s := by
  rw [Bool.eq_iff_iff, occursIn_iff, occursIn_iff]
  constructor
  · rintro ⟨a, w, r, hs, hw⟩
    obtain ⟨hlast, hsome⟩ := hw.ends_other hother
    have hne : w ≠ [] := fun h => Bool.noConfusion (hsome h)
    rcases List.eq_nil_or_concat r with rfl | ⟨r, y, rfl⟩
    · -- What the pattern takes would end the text.
      have hend := congrArg List.getLast? hs
      rw [List.append_nil, List.getLast?_append_of_ne_nil _ hne, List.getLast?_concat] at hend
      exact absurd hend.symm hlast
    · rw [List.concat_eq_append, ← List.append_assoc] at hs
      obtain ⟨rfl, hyz⟩ := List.append_inj' hs rfl
      obtain rfl : z = y := by simpa using hyz
      rw [List.concat_eq_append] at hw
      exact ⟨a, w, r, rfl, (takes_concat_iff hpasses hz).mp hw⟩
  · rintro ⟨a, w, r, rfl, hw⟩
    exact ⟨a, w, r ++ [z], by simp, (takes_concat_iff hpasses hz).mpr hw⟩

end Assay.Pattern
