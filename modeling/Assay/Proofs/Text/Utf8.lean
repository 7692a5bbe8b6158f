import Assay.Text.Encoding.Unicode

/-!
# Texts and their bytes

Every text has bytes, and they are read as that text.

* `toList_toUTF8`: the bytes of a text are those of its characters;
* `utf8_step`: the bytes of a character are read as it, whatever comes behind them;
* `utf8_strict`: the bytes of a text are read as it.
-/

namespace Assay.Text

theorem toList_toByteArray (bytes : List UInt8) : bytes.toByteArray.toList = bytes := by
  have hloop (n : Nat) : ∀ i done, bytes.length - i = n →
      ByteArray.toList.loop bytes.toByteArray i done = done.reverse ++ bytes.drop i := by
    induction n with
    | zero =>
      intro i done hn
      have hi : ¬ i < bytes.toByteArray.size := by
        rw [List.size_toByteArray]
        omega
      rw [ByteArray.toList.loop, if_neg hi, List.drop_eq_nil_of_le (by omega), List.append_nil]
    | succ n ih =>
      intro i done hn
      have hi : i < bytes.length := by omega
      have hsize : i < bytes.toByteArray.size := by rwa [List.size_toByteArray]
      have hget : bytes.toByteArray.get! i = bytes[i] := by
        rw [ByteArray.get!, List.data_toByteArray]
        simp [hi]
      rw [ByteArray.toList.loop, if_pos hsize, ih (i + 1) _ (by omega), hget,
        List.drop_eq_getElem_cons hi, List.reverse_cons, List.append_assoc]
      rfl
  simpa [ByteArray.toList] using hloop bytes.length 0 [] (by omega)

theorem toList_toUTF8 (s : String) :
    s.toUTF8.toList = s.toList.flatMap String.utf8EncodeChar := by
  rw [String.toUTF8_eq_toByteArray, ← String.utf8Encode_toList, List.utf8Encode, toList_toByteArray]

/-- A byte that goes on with a character. -/
theorem utf8Rest_cons {owed low high bits size n : Nat} {rest : List UInt8} (hlow : low ≤ n + 128)
    (hhigh : n + 128 ≤ high) (hn : n < 64) :
    utf8Rest owed low high bits size (UInt8.ofNat (n + 128) :: rest) =
      if owed ≤ 1 then .char (Char.ofNat (bits * 64 + n)) (size + 1)
      else utf8Rest (owed - 1) 0x80 0xBF (bits * 64 + n) (size + 1) rest := by
  have hbyte : (UInt8.ofNat (n + 128)).toNat = n + 128 := by
    rw [UInt8.toNat_ofNat']
    omega
  rw [utf8Rest]
  simp only [hbyte, hlow, hhigh, and_self, if_true, Nat.add_sub_cancel]

theorem leadBytes_two {v : Nat} (hlow : 0x80 ≤ v) (hhigh : v < 0x800) :
    leadBytes? (v / 64 + 0xC0) = some (1, 0x80, 0xBF, v / 64) := by
  rw [leadBytes?, if_pos (by omega), Nat.add_sub_cancel]

/-- The second of three bytes lies where the first announces it: no character is written longer than
it has to be, and none is half of a pair. -/
theorem leadBytes_three {v : Nat} (hlow : 0x800 ≤ v) (hhigh : v < 0x10000)
    (hpair : v < 0xD800 ∨ 0xDFFF < v) : ∃ low high,
      leadBytes? (v / 4096 + 0xE0) = some (2, low, high, v / 4096) ∧
        low ≤ v / 64 % 64 + 128 ∧ v / 64 % 64 + 128 ≤ high := by
  rw [leadBytes?, if_neg (by omega)]
  split
  · have hlead : v / 4096 = 0 := by omega
    exact ⟨0xA0, 0xBF, by rw [hlead], by omega, by omega⟩
  · split
    · have hlead : v / 4096 = 0xD := by omega
      exact ⟨0x80, 0x9F, by rw [hlead], by omega, by omega⟩
    · rw [if_pos (by omega), Nat.add_sub_cancel]
      exact ⟨_, _, rfl, by omega, by omega⟩

theorem leadBytes_four {v : Nat} (hlow : 0x10000 ≤ v) (hhigh : v < 0x110000) : ∃ low high,
    leadBytes? (v / 262144 + 0xF0) = some (3, low, high, v / 262144) ∧
      low ≤ v / 4096 % 64 + 128 ∧ v / 4096 % 64 + 128 ≤ high := by
  rw [leadBytes?, if_neg (by omega), if_neg (by omega), if_neg (by omega), if_neg (by omega)]
  split
  · have hlead : v / 262144 = 0 := by omega
    exact ⟨0x90, 0xBF, by rw [hlead], by omega, by omega⟩
  · split
    · rw [Nat.add_sub_cancel]
      exact ⟨_, _, rfl, by omega, by omega⟩
    · have hlead : v / 262144 = 4 := by omega
      rw [if_pos (by omega)]
      exact ⟨0x80, 0x8F, by rw [hlead], by omega, by omega⟩

/-- The bytes of a character are read as that character. -/
theorem utf8_step (c : Char) (rest : List UInt8) :
    ∃ b more, String.utf8EncodeChar c = b :: more ∧
      utf8.step b (more ++ rest) = .char c (more.length + 1) := by
  have hchar : Char.ofNat c.val.toNat = c := Char.ofNat_toNat c
  have hvalid : c.val.toNat < 0xD800 ∨ 0xDFFF < c.val.toNat ∧ c.val.toNat < 0x110000 := c.valid
  generalize hv : c.val.toNat = v at hchar hvalid
  have hbyte {n : Nat} (hn : n < 256) : (UInt8.ofNat n).toNat = n := by
    rw [UInt8.toNat_ofNat']
    omega
  unfold String.utf8EncodeChar
  simp only [hv]
  split
  · refine ⟨_, [], rfl, ?_⟩
    have hone : v < 0x80 := by omega
    simp [utf8, hbyte (n := v) (by omega), hone, hchar]
  · split
    · refine ⟨_, _, rfl, ?_⟩
      rw [show v / 64 % 32 + 192 = v / 64 + 0xC0 by omega]
      simp only [utf8, hbyte (n := v / 64 + 0xC0) (by omega), List.cons_append, List.nil_append,
        leadBytes_two (v := v) (by omega) (by omega)]
      rw [if_neg (by omega), utf8Rest_cons (by omega) (by omega) (by omega), if_pos (by omega),
        show v / 64 * 64 + v % 64 = v by omega, hchar]
      rfl
    · split
      · refine ⟨_, _, rfl, ?_⟩
        obtain ⟨low, high, hlead, hlow, hhigh⟩ :=
          leadBytes_three (v := v) (by omega) (by omega) (by omega)
        rw [show v / 4096 % 16 + 224 = v / 4096 + 0xE0 by omega]
        simp only [utf8, hbyte (n := v / 4096 + 0xE0) (by omega), List.cons_append,
          List.nil_append, hlead]
        rw [if_neg (by omega), utf8Rest_cons hlow hhigh (by omega), if_neg (by omega),
          utf8Rest_cons (by omega) (by omega) (by omega), if_pos (by omega),
          show (v / 4096 * 64 + v / 64 % 64) * 64 + v % 64 = v by omega, hchar]
        rfl
      · refine ⟨_, _, rfl, ?_⟩
        obtain ⟨low, high, hlead, hlow, hhigh⟩ := leadBytes_four (v := v) (by omega) (by omega)
        rw [show v / 262144 % 8 + 240 = v / 262144 + 0xF0 by omega]
        simp only [utf8, hbyte (n := v / 262144 + 0xF0) (by omega), List.cons_append,
          List.nil_append, hlead]
        rw [if_neg (by omega), utf8Rest_cons hlow hhigh (by omega), if_neg (by omega),
          utf8Rest_cons (by omega) (by omega) (by omega), if_neg (by omega),
          utf8Rest_cons (by omega) (by omega) (by omega), if_pos (by omega),
          show ((v / 262144 * 64 + v / 4096 % 64) * 64 + v / 64 % 64) * 64 + v % 64 = v by omega,
          hchar]
        rfl

theorem readFrom_utf8 (cs done : List Char) (place : Nat) : ∃ place',
    utf8.readFrom done place (cs.flatMap String.utf8EncodeChar) =
      ⟨done.reverse ++ cs, [], place', none⟩ := by
  induction cs generalizing done place with
  | nil => exact ⟨place, by simp [Encoding.readFrom]⟩
  | cons c cs ih =>
    obtain ⟨b, more, hbytes, hstep⟩ := utf8_step c (cs.flatMap String.utf8EncodeChar)
    obtain ⟨place', hplace⟩ := ih (c :: done) (place + more.length + 1)
    refine ⟨place', ?_⟩
    rw [List.flatMap_cons, hbytes, List.cons_append, Encoding.readFrom, hstep]
    simp only [Nat.add_sub_cancel, List.drop_left, hplace, List.reverse_cons, List.append_assoc,
      List.singleton_append]

/-- **The bytes of a text are read as that text.** -/
theorem utf8_strict (s : String) (place : Nat) :
    utf8.strict place s.toUTF8.toList = .ok s.toList := by
  obtain ⟨place', hread⟩ := readFrom_utf8 s.toList [] place
  rw [Encoding.strict, Encoding.read, toList_toUTF8, hread]
  rfl

end Assay.Text
