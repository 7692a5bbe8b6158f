import Assay.Json.Printer
import Assay.Json.Reader

/-!
# Texts written and read back

A text in ASCII has a character beyond the basic ones as two halves, so two halves side by side are
read back as one character. Every other text is read back as it was.

* `joinHalves`: a text with such halves joined; `rereadText`: a text as it is read back;
* `Whole`: a text without such halves, which is read back as it was;
* `Written`: the ways in which a character may be written, and `readString_written`: it is read
  back from each of them;
* `readString_writeString`: a text is read back with its quotes.
-/

namespace Assay

/-! ## Codes -/

namespace Text

theorem isHalfCode_toNat (c : Char) : isHalfCode c.toNat = false := by
  have hvalid : c.toNat < 0xD800 ∨ 0xDFFF < c.toNat ∧ c.toNat < 0x110000 := c.valid
  simp only [isHalfCode, Bool.and_eq_false_iff, decide_eq_false_iff_not]
  omega

theorem half?_eq_some {c : Char} {n : Nat} (h : half? c = some n) :
    c.toNat = halfOffset + n ∧ isHalfCode n = true := by
  unfold half? at h
  dsimp only at h
  split at h
  · rename_i hc
    simp only [Bool.and_eq_true, decide_eq_true_eq] at hc
    rw [Option.some.injEq] at h
    subst h
    exact ⟨by omega, hc.2⟩
  · cases h

theorem codeOf_cases (c : Char) :
    codeOf c = c.toNat ∨ (isHalfCode (codeOf c) = true ∧ c.toNat = halfOffset + codeOf c) := by
  unfold codeOf
  cases h : half? c with
  | none => exact Or.inl rfl
  | some n =>
    obtain ⟨hcode, hhalf⟩ := half?_eq_some h
    exact Or.inr ⟨hhalf, hcode⟩

theorem charOf_codeOf (c : Char) : charOf (codeOf c) = c := by
  unfold charOf
  rcases codeOf_cases c with hcode | ⟨hhalf, hcode⟩
  · rw [hcode, isHalfCode_toNat]
    exact Char.ofNat_toNat c
  · rw [hhalf, if_pos rfl, halfChar, ← hcode]
    exact Char.ofNat_toNat c

theorem codeOf_eq_toNat {c : Char} (h : 0x10000 ≤ codeOf c ∨ c.toNat < 0x10000) :
    codeOf c = c.toNat := by
  rcases codeOf_cases c with hcode | ⟨hhalf, hcode⟩
  · exact hcode
  · simp only [isHalfCode, halfOffset, Bool.and_eq_true, decide_eq_true_eq] at hhalf hcode
    omega

end Text

namespace Json

/-! ## Halves side by side -/

/-- The character that two halves make. -/
def join? (a b : Char) : Option Char :=
  if isHighSurrogate (Text.codeOf a) && isLowSurrogate (Text.codeOf b) then
    some (Char.ofNat
      (0x10000 + (Text.codeOf a - 0xD800) * 0x400 + (Text.codeOf b - 0xDC00)))
  else none

/-- A text with halves side by side joined. -/
def joinHalves : List Char → List Char
  | [] => []
  | [c] => [c]
  | a :: b :: rest =>
    match join? a b with
    | some c => c :: joinHalves rest
    | none => a :: joinHalves (b :: rest)

/-- A text as it is read back. -/
def rereadText (ascii : Bool) (s : List Char) : List Char :=
  if ascii then joinHalves s else s

/-- A text in which no two halves of a character stand side by side. -/
def Whole : List Char → Prop
  | a :: b :: rest => join? a b = none ∧ Whole (b :: rest)
  | _ => True

theorem joinHalves_whole {s : List Char} (h : Whole s) : joinHalves s = s := by
  induction s using joinHalves.induct with
  | case1 | case2 => rfl
  | case3 a b s c hjoin =>
    rw [h.1] at hjoin
    cases hjoin
  | case4 a b s hjoin ih => rw [joinHalves, hjoin, ih h.2]

theorem rereadText_whole {ascii : Bool} {s : List Char} (h : ascii = true → Whole s) :
    rereadText ascii s = s := by
  cases ascii with
  | false => rfl
  | true => exact joinHalves_whole (h rfl)

/-- Basic characters are whole. -/
theorem whole_of_basic {s : List Char} (h : (s.all fun c => c.toNat < 0x10000) = true) :
    Whole s := by
  match s with
  | [] | [_] => trivial
  | a :: b :: s =>
    rw [List.all_cons, Bool.and_eq_true, decide_eq_true_eq] at h
    refine ⟨?_, whole_of_basic h.2⟩
    have hcode := Text.codeOf_eq_toNat (Or.inr h.1)
    have hhalf := Text.isHalfCode_toNat a
    simp only [Text.isHalfCode, Bool.and_eq_false_iff, decide_eq_false_iff_not] at hhalf
    have hhigh : isHighSurrogate (Text.codeOf a) = false := by
      simp only [hcode, isHighSurrogate, Bool.and_eq_false_iff, decide_eq_false_iff_not]
      omega
    simp [join?, hhigh]

/-! ## Escapes -/

theorem hexValue?_hexDigit : ∀ k < 16, hexValue? (Text.hexDigit k) = some k := by
  decide

/-- Four digits are read back where more text follows. -/
theorem unit?_hexDigits {n : Nat} (h : n < 0x10000) {rest : List Char} (hrest : rest ≠ []) :
    unit? (Text.hexDigits 4 n ++ rest) = some (n, rest) := by
  have hdigit (m : Nat) : hexValue? (Text.hexDigit (m % 16)) = some (m % 16) :=
    hexValue?_hexDigit _ (Nat.mod_lt _ (by decide))
  obtain ⟨c, rest, rfl⟩ := List.exists_cons_of_ne_nil hrest
  simp only [Text.hexDigits, List.nil_append, List.cons_append, unit?, hdigit,
    Option.bind_eq_bind, Option.bind_some, Option.pure_def, Option.some.injEq, Prod.mk.injEq,
    and_true]
  omega

/-- A text that does not go on with the second half of a pair. -/
def NotLow (r : List Char) : Prop :=
  ∀ r₂, r = '\\' :: 'u' :: r₂ → ∃ m r₃, unit? r₂ = some (m, r₃) ∧ isLowSurrogate m = false

theorem readEscape_unit {n : Nat} (h : n < 0x10000) {r : List Char} (hr : r ≠ [])
    (hnext : isHighSurrogate n = true → NotLow r) :
    readEscape ('u' :: (Text.hexDigits 4 n ++ r)) = .ok (Text.charOf n, r) := by
  simp only [readEscape, unit?_hexDigits h hr]
  split
  · rename_i hhigh
    split
    · rename_i r₂
      obtain ⟨m, r₃, hunit, hlow⟩ := hnext hhigh r₂ rfl
      simp [hunit, hlow]
    · rfl
  · rfl

theorem readEscape_pair {n m : Nat} (hn : isHighSurrogate n = true) (hm : isLowSurrogate m = true)
    {r : List Char} (hr : r ≠ []) :
    readEscape ('u' :: (Text.hexDigits 4 n ++ (writeUnit m ++ r))) =
      .ok (Char.ofNat (0x10000 + (n - 0xD800) * 0x400 + (m - 0xDC00)), r) := by
  have hn' : n < 0x10000 := by
    simp only [isHighSurrogate, Bool.and_eq_true, decide_eq_true_eq] at hn
    omega
  have hm' : m < 0x10000 := by
    simp only [isLowSurrogate, Bool.and_eq_true, decide_eq_true_eq] at hm
    omega
  have hrest : writeUnit m ++ r ≠ [] := by simp [writeUnit]
  simp only [readEscape, unit?_hexDigits hn' hrest]
  simp [hn, writeUnit, unit?_hexDigits hm' hr, hm]

/-! ## Characters -/

/-- How a character may be written. -/
inductive Written (ascii : Bool) (c : Char) : List Char → Prop
  | plain (hquote : c ≠ '\x22') (hslash : c ≠ '\\') (hcontrol : 32 ≤ c.toNat) : Written ascii c [c]
  | letter (x : Char) (hx : x ≠ 'u') (h : ∀ r, readEscape (x :: r) = .ok (c, r)) :
      Written ascii c ['\\', x]
  | unit (h : Text.codeOf c < 0x10000) (hascii : isHighSurrogate (Text.codeOf c) = true → ascii) :
      Written ascii c (writeUnit (Text.codeOf c))
  | pair (n m : Nat) (hn : isHighSurrogate n = true) (hm : isLowSurrogate m = true)
      (h : Char.ofNat (0x10000 + (n - 0xD800) * 0x400 + (m - 0xDC00)) = c) :
      Written ascii c (writeUnit n ++ writeUnit m)

theorem written_unit {c : Char} (ascii : Bool) (h : c.toNat < 32) :
    Written ascii c (writeUnit c.toNat) := by
  have hcode := Text.codeOf_eq_toNat (Or.inr (by omega : c.toNat < 0x10000))
  rw [← hcode]
  refine .unit (by omega) fun hhigh => ?_
  simp only [isHighSurrogate, Bool.and_eq_true, decide_eq_true_eq] at hhigh
  omega

theorem written_pair {c : Char} (ascii : Bool) (h : 0x10000 ≤ Text.codeOf c) :
    Written ascii c (writeUnit (0xD800 + (c.toNat - 0x10000) / 0x400) ++
      writeUnit (0xDC00 + (c.toNat - 0x10000) % 0x400)) := by
  have hcode := Text.codeOf_eq_toNat (Or.inl h)
  have hvalid : c.toNat < 0xD800 ∨ 0xDFFF < c.toNat ∧ c.toNat < 0x110000 := c.valid
  refine .pair _ _ ?_ ?_ ?_
  · simp only [isHighSurrogate, Bool.and_eq_true, decide_eq_true_eq]
    omega
  · simp only [isLowSurrogate, Bool.and_eq_true, decide_eq_true_eq]
    omega
  · have hsum : 0x10000 + (0xD800 + (c.toNat - 0x10000) / 0x400 - 0xD800) * 0x400 +
        (0xDC00 + (c.toNat - 0x10000) % 0x400 - 0xDC00) = c.toNat := by omega
    rw [hsum]
    exact Char.ofNat_toNat c

theorem written_letter {c d x : Char} (ascii : Bool) (hc : c.toNat = d.toNat) (hx : x ≠ 'u')
    (hd : ∀ r, readEscape (x :: r) = .ok (d, r)) : Written ascii c ['\\', x] := by
  obtain rfl : c = d := by rw [← Char.ofNat_toNat c, hc, Char.ofNat_toNat]
  exact .letter x hx hd

theorem written_writeChar (ascii : Bool) (c : Char) : Written ascii c (writeChar ascii c) := by
  have letter {d x : Char} (h : (c == d) = true) (hx : x ≠ 'u')
      (hd : ∀ r, readEscape (x :: r) = .ok (d, r)) : Written ascii c ['\\', x] :=
    written_letter ascii (congrArg Char.toNat (beq_iff_eq.mp h)) hx hd
  unfold writeChar
  split
  · exact letter ‹_› (by decide) fun _ => rfl
  rename_i hquote
  split
  · exact letter ‹_› (by decide) fun _ => rfl
  rename_i hslash
  split
  · exact letter ‹_› (by decide) fun _ => rfl
  split
  · exact letter ‹_› (by decide) fun _ => rfl
  split
  · exact letter ‹_› (by decide) fun _ => rfl
  split
  · rename_i h
    exact written_letter (d := Char.ofNat 8) ascii (beq_iff_eq.mp h) (by decide) fun _ => rfl
  split
  · rename_i h
    exact written_letter (d := Char.ofNat 12) ascii (beq_iff_eq.mp h) (by decide) fun _ => rfl
  split
  · rename_i h
    exact written_unit ascii h
  rename_i hcontrol
  split
  · exact .plain (by simpa using hquote) (by simpa using hslash) (by omega)
  rename_i hascii
  split
  · rename_i h
    refine .unit h fun _ => ?_
    simp only [Bool.or_eq_true, Bool.not_eq_true', not_or] at hascii
    simpa using hascii.1
  · rename_i h
    exact written_pair ascii (by omega)

theorem Written.ne_nil {ascii : Bool} {c : Char} {w : List Char} (h : Written ascii c w) :
    w ≠ [] := by
  cases h <;> simp [writeUnit]

theorem notLow_quote (rest : List Char) : NotLow ('\x22' :: rest) := by
  intro r₂ h
  simp at h

/-- What is written for anything but a second half does not go on as one. -/
theorem Written.notLow {ascii : Bool} {c : Char} {w : List Char} (h : Written ascii c w)
    (hlow : isLowSurrogate (Text.codeOf c) = false) {r : List Char} (hr : r ≠ []) :
    NotLow (w ++ r) := by
  intro r₂ heq
  cases h with
  | plain _ hslash => exact absurd (List.cons.inj heq).1 hslash
  | letter x hx => exact absurd (List.cons.inj (List.cons.inj heq).2).1 hx
  | unit hcode =>
    obtain rfl : Text.hexDigits 4 (Text.codeOf c) ++ r = r₂ := by simpa [writeUnit] using heq
    exact ⟨_, r, unit?_hexDigits hcode hr, hlow⟩
  | pair n m hn =>
    obtain rfl : Text.hexDigits 4 n ++ (writeUnit m ++ r) = r₂ := by
      simpa [writeUnit] using heq
    simp only [isHighSurrogate, Bool.and_eq_true, decide_eq_true_eq] at hn
    refine ⟨n, writeUnit m ++ r, unit?_hexDigits (by omega) (by simp [writeUnit]), ?_⟩
    simp only [isLowSurrogate, Bool.and_eq_false_iff, decide_eq_false_iff_not]
    omega

/-! ## Texts -/

variable {whole : List Char} {ascii : Bool} {c : Char} {w r acc : List Char} {fuel : Nat}

theorem readString_escape {x : Char} {r' : List Char} (hr : r ≠ [])
    (h : readEscape r = .ok (x, r')) :
    readString whole (fuel + 1) ('\\' :: r) acc = readString whole fuel r' (x :: acc) := by
  have hempty : r.isEmpty = false := by simpa using hr
  simp [readString, hempty, h]

/-- A character is read back, unless it and the next are halves side by side. -/
theorem readString_written (hw : Written ascii c w) (hr : r ≠ [])
    (hnext : ascii = true → isHighSurrogate (Text.codeOf c) = true → NotLow r) :
    readString whole (fuel + 1) (w ++ r) acc = readString whole fuel r (c :: acc) := by
  cases hw with
  | plain hquote hslash hcontrol =>
    have hlt : ¬ c.toNat < 32 := by omega
    simp [readString, hquote, hslash, hlt]
  | letter x _ h =>
    exact readString_escape (by simp) (h r)
  | unit hcode hascii =>
    have hread := readEscape_unit hcode hr fun hhigh => hnext (hascii hhigh) hhigh
    rw [Text.charOf_codeOf] at hread
    exact readString_escape (by simp) hread
  | pair n m hn hm h =>
    have hread := readEscape_pair hn hm hr
    rw [h] at hread
    simp only [List.append_assoc]
    exact readString_escape (by simp) hread

theorem isHalfCode_of_high {n : Nat} (h : isHighSurrogate n = true) : Text.isHalfCode n = true := by
  simp only [isHighSurrogate, Text.isHalfCode, Bool.and_eq_true, decide_eq_true_eq] at h ⊢
  omega

theorem isHalfCode_of_low {n : Nat} (h : isLowSurrogate n = true) : Text.isHalfCode n = true := by
  simp only [isLowSurrogate, Text.isHalfCode, Bool.and_eq_true, decide_eq_true_eq] at h ⊢
  omega

theorem writeChar_half (h : Text.isHalfCode (Text.codeOf c) = true) :
    writeChar true c = writeUnit (Text.codeOf c) := by
  rcases Text.codeOf_cases c with hcode | ⟨_, hcode⟩
  · rw [hcode, Text.isHalfCode_toNat] at h
    cases h
  · have hbig : 0x100000 ≤ c.toNat := by
      rw [hcode, Text.halfOffset]
      omega
    have hne {x : Char} (hx : x.toNat < 0x100000) : c ≠ x := by
      rintro rfl
      omega
    have hlt : Text.codeOf c < 0x10000 := by
      simp only [Text.isHalfCode, Bool.and_eq_true, decide_eq_true_eq] at h
      omega
    unfold writeChar
    simp [hne, hlt, show c.toNat ≠ 8 by omega, show c.toNat ≠ 12 by omega,
      show ¬ c.toNat < 32 by omega, show ¬ c.toNat < 127 by omega]

/-- Two halves side by side are read back as one character. -/
theorem readString_join {a b : Char} (h : join? a b = some c) (hr : r ≠ []) :
    readString whole (fuel + 1) (writeChar true a ++ (writeChar true b ++ r)) acc =
      readString whole fuel r (c :: acc) := by
  unfold join? at h
  split at h
  · rename_i hhalves
    rw [Bool.and_eq_true] at hhalves
    obtain ⟨ha, hb⟩ := hhalves
    have hread := readEscape_pair ha hb hr
    rw [Option.some.inj h] at hread
    rw [writeChar_half (isHalfCode_of_high ha), writeChar_half (isHalfCode_of_low hb)]
    exact readString_escape (by simp) hread
  · cases h

theorem readString_quote (rest : List Char) :
    readString whole (fuel + 1) ('\x22' :: rest) acc = .ok (acc.reverse, rest) := by
  simp [readString]

theorem readString_plain (s rest acc : List Char) (h : s.length < fuel) :
    readString whole fuel (s.flatMap (writeChar false) ++ '\x22' :: rest) acc =
      .ok (acc.reverse ++ s, rest) := by
  obtain ⟨fuel, rfl⟩ : ∃ n, fuel = n + 1 := ⟨fuel - 1, by omega⟩
  induction s generalizing fuel acc with
  | nil => simp [readString_quote]
  | cons c s ih =>
    simp only [List.length_cons] at h
    obtain ⟨fuel, rfl⟩ : ∃ n, fuel = n + 1 := ⟨fuel - 1, by omega⟩
    rw [List.flatMap_cons, List.append_assoc,
      readString_written (written_writeChar false c) (by simp) nofun, ih _ fuel (by omega)]
    simp

/-- Only a second half may stand where it would make a pair. -/
theorem notLow_of_join?_none {a b : Char} (h : join? a b = none)
    (ha : isHighSurrogate (Text.codeOf a) = true) (hr : r ≠ []) :
    NotLow (writeChar true b ++ r) := by
  refine (written_writeChar true b).notLow ?_ hr
  simpa [join?, ha] using h

theorem readString_ascii (s rest acc : List Char) (h : s.length < fuel) :
    readString whole fuel (s.flatMap (writeChar true) ++ '\x22' :: rest) acc =
      .ok (acc.reverse ++ joinHalves s, rest) := by
  obtain ⟨fuel, rfl⟩ : ∃ n, fuel = n + 1 := ⟨fuel - 1, by omega⟩
  -- The reader takes a pair in one step, as the joining of halves does.
  induction s using joinHalves.induct generalizing fuel acc with
  | case1 => simp [readString_quote, joinHalves]
  | case2 c =>
    simp only [List.length_cons, List.length_nil] at h
    obtain ⟨fuel, rfl⟩ : ∃ n, fuel = n + 1 := ⟨fuel - 1, by omega⟩
    simp only [List.flatMap_cons, List.flatMap_nil, List.append_nil]
    rw [readString_written (written_writeChar true c) (by simp) fun _ _ => notLow_quote rest]
    simp [readString_quote, joinHalves]
  | case3 a b s c hjoin ih =>
    simp only [List.length_cons] at h
    obtain ⟨fuel, rfl⟩ : ∃ n, fuel = n + 1 := ⟨fuel - 1, by omega⟩
    simp only [List.flatMap_cons, List.append_assoc]
    rw [readString_join hjoin (by simp), ih _ fuel (by omega), joinHalves, hjoin]
    simp
  | case4 a b s hjoin ih =>
    simp only [List.length_cons] at h ih
    obtain ⟨fuel, rfl⟩ : ∃ n, fuel = n + 1 := ⟨fuel - 1, by omega⟩
    have hnext (ha : isHighSurrogate (Text.codeOf a) = true) :
        NotLow ((b :: s).flatMap (writeChar true) ++ '\x22' :: rest) := by
      rw [List.flatMap_cons, List.append_assoc]
      exact notLow_of_join?_none hjoin ha (by simp)
    rw [List.flatMap_cons, List.append_assoc,
      readString_written (written_writeChar true a) (by simp) fun _ => hnext,
      ih _ fuel (by omega), joinHalves, hjoin]
    simp

/-- A text is read back up to its closing quote. -/
theorem readString_chars (ascii : Bool) (s rest : List Char) (h : s.length < fuel) :
    readString whole fuel (s.flatMap (writeChar ascii) ++ '\x22' :: rest) [] =
      .ok (rereadText ascii s, rest) := by
  cases ascii with
  | false => exact readString_plain s rest [] h
  | true => exact readString_ascii s rest [] h

theorem length_le_flatMap (ascii : Bool) (s : List Char) :
    s.length ≤ (s.flatMap (writeChar ascii)).length := by
  induction s with
  | nil => exact Nat.le_refl _
  | cons c s ih =>
    have := List.length_pos_iff.mpr (written_writeChar ascii c).ne_nil
    simp only [List.flatMap_cons, List.length_cons, List.length_append]
    omega

/-- A text is read back with its quotes. -/
theorem readString_writeString (ascii : Bool) (s : String) (rest : List Char) (fuel : Nat)
    (h : (writeString ascii s).length ≤ fuel) :
    ∃ chars, writeString ascii s ++ rest = '\x22' :: chars ∧
      readString ('\x22' :: chars) fuel chars [] = .ok (rereadText ascii s.toList, rest) := by
  refine ⟨s.toList.flatMap (writeChar ascii) ++ '\x22' :: rest, by simp [writeString], ?_⟩
  apply readString_chars
  have := length_le_flatMap ascii s.toList
  simp only [writeString, List.length_append, List.length_cons] at h
  omega

end Json

end Assay
