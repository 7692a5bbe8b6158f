import Assay.Json.Reader

/-!
# What the reader says of a text

* `ReadError.exists_first`: whatever is wrong with a text, the message starts with one of four
  letters;
* `ReadError.message_ne_empty`, `ReadError.message_ne_of_first`: so it is not empty, nor a text that
  starts with another one.
-/

namespace Assay.Json

theorem head?_toList_append {a : String} {c : Char} (h : a.toList.head? = some c) (b : String) :
    (a ++ b).toList.head? = some c := by
  rw [String.toList_append, List.head?_append, h]
  rfl

theorem Cause.exists_first (cause : Cause) :
    ∃ c ∈ ['E', 'U', 'I', 'm'], cause.message.toList.head? = some c := by
  cases cause with
  | noValue | noKey | noComma | noColon | trailing => exact ⟨'E', by decide, rfl⟩
  | openString => exact ⟨'U', by decide, rfl⟩
  | control | badEscape | badUnit => exact ⟨'I', by decide, rfl⟩

namespace ReadError

theorem exists_first (e : ReadError) :
    ∃ c ∈ ['E', 'U', 'I', 'm'], e.message.toList.head? = some c := by
  cases e with
  | malformed cause line column position =>
    obtain ⟨c, hc, hfirst⟩ := cause.exists_first
    refine ⟨c, hc, ?_⟩
    repeat apply head?_toList_append
    exact hfirst
  | digitLimit n =>
    refine ⟨'E', by decide, ?_⟩
    repeat apply head?_toList_append
    rfl
  | tooDeep container =>
    refine ⟨'m', by decide, ?_⟩
    repeat apply head?_toList_append
    rfl

theorem message_ne_empty (e : ReadError) : e.message ≠ "" := by
  intro hempty
  obtain ⟨c, _, hfirst⟩ := e.exists_first
  rw [hempty] at hfirst
  cases hfirst

/-- A message is no text that starts with another letter. -/
theorem message_ne_of_first (e : ReadError) {s : String} {c : Char}
    (hs : s.toList.head? = some c) (hc : c ∉ ['E', 'U', 'I', 'm']) : e.message ≠ s := by
  rintro rfl
  obtain ⟨d, hd, hfirst⟩ := e.exists_first
  obtain rfl : d = c := Option.some.inj (hfirst.symm.trans hs)
  exact hc hd

end ReadError

end Assay.Json
