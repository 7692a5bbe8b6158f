import Assay.Json.Encoded
import Assay.Proofs.Json.RoundTrip
import Assay.Proofs.Text.Utf8

/-!
# Documents that come back as they were

What is written is read back as it was, not only as something like it, if it has no floats, its
integers have no more digits than may be, it is nested no deeper than may be, the keys of each
object differ and, where only ASCII is written, its texts are whole.

* `Kept`: such a value;
* `Kept.record`, `Kept.single`, `Kept.flat`: an object whose keys are known;
* `read_render`: a document of this kind is read back as it was;
* `ofBytes_utf8`, `ofBytes_render`: so it is from its bytes.
-/

namespace Assay.Json

/-- A value that comes back as it was, nested no deeper than `depth`. -/
inductive Kept (ascii : Bool) : (depth : Nat) → Json → Prop
  | null (depth : Nat) : Kept ascii depth null
  | bool (depth : Nat) (b : Bool) : Kept ascii depth (bool b)
  | int (depth : Nat) {n : Int} (h : n.natAbs < 10 ^ maxDigits) : Kept ascii depth (int n)
  | str (depth : Nat) {s : String} (h : ascii = true → Whole s.toList) : Kept ascii depth (str s)
  | arr {depth : Nat} {items : List Json} (h : ∀ x ∈ items, Kept ascii depth x) :
      Kept ascii (depth + 1) (arr items)
  | obj {depth : Nat} {fields : List (String × Json)} (hnodup : (fields.map Prod.fst).Nodup)
      (hwhole : ascii = true → ∀ k ∈ fields.map Prod.fst, Whole k.toList)
      (h : ∀ f ∈ fields, Kept ascii depth f.2) : Kept ascii (depth + 1) (obj fields)

theorem fitsFields_iff {depth : Nat} {fields : List (String × Json)} :
    FitsFields depth fields ↔ ∀ f ∈ fields, Fits depth f.2 := by
  induction fields with
  | nil => simp [FitsFields]
  | cons f fields ih => rw [FitsFields, ih, List.forall_mem_cons]

namespace Kept

variable {ascii : Bool} {depth : Nat} {j : Json}

theorem fits (h : Kept ascii depth j) : Fits depth j := by
  induction h with
  | null depth | bool depth | str depth => simp [Fits]
  | int depth h => simpa [Fits] using h
  | arr _ ih => exact fitsItems_iff.mpr ih
  | obj _ _ _ ih => exact fitsFields_iff.mpr ih

theorem reread_eq (h : Kept ascii depth j) : reread ascii j = j := by
  induction h with
  | null | bool | int => rw [reread]
  | str _ h => rw [reread, rereadText_whole h, String.ofList_toList]
  | arr _ ih =>
    rw [reread, rereadItems_eq_map, List.map_congr_left ih, List.map_id']
  | @obj _ fields hnodup hwhole _ ih =>
    have hfields : (fields.map fun f => (f.1, reread ascii f.2)) = fields := by
      refine (List.map_congr_left fun f hf => ?_).trans (List.map_id' fields)
      rw [ih f hf]
    rw [reread_obj hwhole hnodup, hfields]

/-- An optional integer is kept as an integer is. -/
theorem ofInt? {n : Option Int} (depth : Nat) (h : ∀ m ∈ n, m.natAbs < 10 ^ maxDigits) :
    Kept ascii depth (.ofInt? n) := by
  cases n with
  | none => exact .null depth
  | some m => exact .int depth (h m rfl)

theorem strings {xs : List String} (h : ascii = true → ∀ s ∈ xs, Whole s.toList) :
    Kept ascii (depth + 1) (.strings xs) := by
  refine .arr fun x hx => ?_
  obtain ⟨s, hs, rfl⟩ := List.mem_map.mp hx
  exact .str depth fun ha => h ha s hs

/-- Keys that differ and have basic characters only. -/
def arePlain (keys : List String) : Bool :=
  decide keys.Nodup && keys.all fun k => k.toList.all fun c => c.toNat < 0x10000

/-- An object whose keys are known. -/
theorem record {fields : List (String × Json)} (keys : List String)
    (hkeys : fields.map Prod.fst = keys) (hplain : arePlain keys = true)
    (h : ∀ f ∈ fields, Kept ascii depth f.2) : Kept ascii (depth + 1) (.obj fields) := by
  rw [arePlain, Bool.and_eq_true, decide_eq_true_eq, List.all_eq_true] at hplain
  obtain ⟨hnodup, hbasic⟩ := hplain
  refine .obj (hkeys ▸ hnodup) (fun _ k hk => ?_) h
  exact whole_of_basic (hbasic k (hkeys ▸ hk))

/-- An object with one field. -/
theorem single {key : String} {v : Json} (hplain : arePlain [key] = true)
    (h : Kept ascii depth v) : Kept ascii (depth + 1) (.obj [(key, v)]) := by
  refine record [key] rfl hplain fun f hf => ?_
  obtain rfl := List.mem_singleton.mp hf
  exact h

/-- A text, or an integer of one digit. -/
def isShort : Json → Bool
  | .str _ => true
  | .int n => n.natAbs < 10
  | _ => false

/-- An object of such values. -/
theorem flat {fields : List (String × Json)} (keys : List String)
    (hkeys : fields.map Prod.fst = keys) (hplain : arePlain keys = true)
    (hshort : (fields.all fun f => isShort f.2) = true) : Kept false (depth + 1) (.obj fields) := by
  refine record keys hkeys hplain fun f hmem => ?_
  have hvalue := List.all_eq_true.mp hshort f hmem
  cases hf : f.2 with
  | str s => exact .str depth nofun
  | int n =>
    rw [hf, isShort, decide_eq_true_eq] at hvalue
    exact .int depth (Nat.lt_of_lt_of_le hvalue (Nat.le_pow (by decide)))
  | null | bool | real | arr | obj =>
    rw [hf] at hvalue
    cases hvalue

end Kept

/-- **A document of this kind is read back as it was.** -/
theorem read_render {l : Layout} {j : Json} (h : Kept l.ascii maxDepth j) :
    read (j.render l).toList = .ok j := by
  rw [render, String.toList_ofList, read_write l h.fits, h.reread_eq]

theorem markOf_eq_none {x : UInt8} {more : List UInt8} (hx : 0 < x ∧ x < 0x80) :
    markOf? (x :: more) = none := by
  have hne {z : UInt8} {r : List UInt8} (hz : ¬ (0 < z ∧ z < 0x80)) : x :: more ≠ z :: r :=
    fun h => hz ((List.cons.inj h).1 ▸ hx)
  unfold markOf?
  split
  · exact absurd ‹_› (hne (by decide))
  · exact absurd ‹_› (hne (by decide))
  · exact absurd ‹_› (hne (by decide))
  · exact absurd ‹_› (hne (by decide))
  · exact absurd ‹_› (hne (by decide))
  · rfl

theorem unmarkedEncoding_eq {x y : UInt8} {more : List UInt8} (hx : x ≠ 0) (hy : y ≠ 0) :
    unmarkedEncoding (x :: y :: more) = Text.utf8 := by
  unfold unmarkedEncoding
  split
  · rename_i heq
    obtain ⟨rfl, rfl, -⟩ : _ ∧ _ ∧ _ := by simpa using heq
    rw [if_neg hx, if_neg hy]
  · rename_i heq
    obtain ⟨rfl, rfl, -⟩ : _ ∧ _ ∧ _ := by simpa using heq
    rw [if_neg hx, if_neg hy]
  · rfl

/-- The bytes of a text that begins with two characters of ASCII are read as the text is. -/
theorem ofBytes_utf8 {s : String} {a b : Char} {rest : List Char} (hs : s.toList = a :: b :: rest)
    (ha : 0 < a.toNat ∧ a.toNat < 0x80) (hb : 0 < b.toNat ∧ b.toNat < 0x80) :
    ofBytes s.toUTF8.toList = (read s.toList).mapError .malformedJson := by
  have hbyte {c : Char} (hc : 0 < c.toNat ∧ c.toNat < 0x80) :
      ∃ x, String.utf8EncodeChar c = [x] ∧ 0 < x ∧ x < 0x80 := by
    refine ⟨UInt8.ofNat c.toNat, if_pos (Nat.le_of_lt_succ hc.2), ?_⟩
    rw [UInt8.lt_iff_toNat_lt, UInt8.lt_iff_toNat_lt, UInt8.toNat_ofNat',
      Nat.mod_eq_of_lt (by omega)]
    exact hc
  obtain ⟨x, hx, hxAscii⟩ := hbyte ha
  obtain ⟨y, hy, hyAscii⟩ := hbyte hb
  have hbytes : s.toUTF8.toList = x :: y :: rest.flatMap String.utf8EncodeChar := by
    rw [Text.toList_toUTF8, hs, List.flatMap_cons, List.flatMap_cons, hx, hy]
    rfl
  have hstrict := Text.utf8_strict s 0
  have hnonzero {z : UInt8} (hz : 0 < z) : z ≠ 0 := (UInt8.ne_of_lt hz).symm
  rw [hbytes] at hstrict ⊢
  rw [ofBytes, markOf_eq_none hxAscii, unmarkedEncoding_eq (hnonzero hxAscii.1)
    (hnonzero hyAscii.1)]
  simp only [Option.getD_none, List.drop_zero, hstrict]
  rfl

/-- A document of this kind is read back from its bytes. -/
theorem ofBytes_render {l : Layout} {j : Json} {a b : Char} {rest : List Char}
    (h : Kept l.ascii maxDepth j) (hj : j.write l 0 = a :: b :: rest)
    (ha : 0 < a.toNat ∧ a.toNat < 0x80) (hb : 0 < b.toNat ∧ b.toNat < 0x80) :
    ofBytes (j.render l).toUTF8.toList = .ok j := by
  have htext : (j.render l).toList = a :: b :: rest := by rw [render, String.toList_ofList, hj]
  rw [ofBytes_utf8 htext ha hb, read_render h]
  rfl

end Assay.Json
