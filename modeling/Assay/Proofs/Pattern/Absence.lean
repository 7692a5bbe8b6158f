import Assay.Proofs.Pattern.Takes

/-!
# What a pattern cannot do without

A pattern that has to take some character does not occur in a text where that character is missing.

* `Pattern.takesOther`: every match takes a character other than those of a set;
* `Pattern.count_eq_zero`: in a text of that set alone the pattern has no match.
-/

namespace Assay.Pattern

/-- Every match takes a character other than the allowed ones. -/
def takesOther (allowed : Char → Bool) : Pattern → Bool
  | one (.exactly c) => !allowed c
  | cat p q => p.takesOther allowed || q.takesOther allowed
  | either p q => p.takesOther allowed && q.takesOther allowed
  | capture _ p => p.takesOther allowed
  | _ => false

variable {p : Pattern} {allowed : Char → Bool}

theorem Takes.exists_other {before : Option Char} {w rest : List Char}
    (h : p.Takes before w rest) (hp : p.takesOther allowed = true) :
    ∃ x ∈ w, allowed x = false := by
  induction p generalizing before w rest with
  | one s =>
    cases s with
    | exactly y =>
      obtain ⟨x, rfl, hx⟩ := h
      obtain rfl : x = y := beq_iff_eq.mp hx
      have hother : allowed x = false := by simpa [takesOther] using hp
      exact ⟨x, List.mem_singleton_self x, hother⟩
    | _ => cases hp
  | cat p q ihp ihq =>
    obtain ⟨u, v, rfl, hu, hv⟩ := h
    rcases Bool.or_eq_true_iff.mp hp with hp | hq
    · obtain ⟨x, hx, hother⟩ := ihp hu hp
      exact ⟨x, List.mem_append_left v hx, hother⟩
    · obtain ⟨x, hx, hother⟩ := ihq hv hq
      exact ⟨x, List.mem_append_right u hx, hother⟩
  | either p q ihp ihq =>
    obtain ⟨hp, hq⟩ := Bool.and_eq_true_iff.mp hp
    rcases h with h | h
    · exact ihp h hp
    · exact ihq h hq
  | capture n p ih => exact ih h hp
  | _ => cases hp

theorem matchAt?_eq_none (hp : p.takesOther allowed = true) {c : Cursor}
    (hc : ∀ x ∈ c.rest, allowed x = true) : p.matchAt? c = none := by
  rw [← Option.not_isSome_iff_eq_none, matchAt?_isSome_iff]
  rintro ⟨w, rest, hrest, h⟩
  obtain ⟨x, hx, hother⟩ := h.exists_other hp
  have hallowed : allowed x = true := by
    apply hc
    rw [hrest]
    exact List.mem_append_left rest hx
  rw [hallowed] at hother
  cases hother

theorem scan_eq_nil (hp : p.takesOther allowed = true) {rest : List Char}
    (hrest : ∀ x ∈ rest, allowed x = true) (pos : Nat) (before : Option Char) :
    p.scan pos before rest 0 [] = [] := by
  induction rest generalizing pos before with
  | nil =>
    rw [scan, matchAt?_eq_none hp hrest]
    rfl
  | cons x r ih =>
    rw [scan, matchAt?_eq_none hp hrest]
    exact ih (fun y hy => hrest y (List.mem_cons_of_mem x hy)) _ _

/-- A pattern has no match in a text of allowed characters if every match takes another one. -/
theorem count_eq_zero (hp : p.takesOther allowed = true) {s : List Char}
    (hs : ∀ x ∈ s, allowed x = true) : p.count s = 0 := by
  rw [count, allMatches, scan_eq_nil hp hs]
  rfl

end Assay.Pattern
