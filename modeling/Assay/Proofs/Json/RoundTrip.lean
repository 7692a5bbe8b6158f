import Assay.Proofs.Json.Number
import Assay.Proofs.Json.Text

/-!
# Documents written and read back

What `Json.write` writes in any layout, `Json.read` reads back. A text in ASCII comes back with its
halves joined, and a key that comes twice comes back once, with its last value; of floats nothing is
said.

* `reread`: a value as it is read back;
* `Fits`: a value without floats, with integers of no more digits and nested no deeper than may be;
* `readValue_write`: a value is read back up to what follows it;
* `read_write`: a document is read back.
-/

namespace Assay.Json

mutual

/-- A value as it is read back. -/
def reread (ascii : Bool) : Json → Json
  | str s => str (String.ofList (rereadText ascii s.toList))
  | arr items => arr (rereadItems ascii items)
  | obj fields => obj (rereadFields ascii fields [])
  | null => null
  | bool b => bool b
  | int n => int n
  | real x => real x

def rereadItems (ascii : Bool) : List Json → List Json
  | [] => []
  | x :: xs => reread ascii x :: rereadItems ascii xs

/-- Some fields as they are read back after others. -/
def rereadFields (ascii : Bool) : List (String × Json) → List (String × Json) →
    List (String × Json)
  | [], acc => acc
  | (k, v) :: fields, acc =>
    rereadFields ascii fields
      (insertField (String.ofList (rereadText ascii k.toList)) (reread ascii v) acc)

end

mutual

/-- A value that can be read back: it has no floats, its integers have no more digits than may be,
and it is nested no deeper than `depth`. -/
def Fits : (depth : Nat) → Json → Prop
  | _, int n => n.natAbs < 10 ^ maxDigits
  | _, real _ => False
  | 0, arr _ => False
  | depth + 1, arr items => FitsItems depth items
  | 0, obj _ => False
  | depth + 1, obj fields => FitsFields depth fields
  | _, null => True
  | _, bool _ => True
  | _, str _ => True

def FitsItems (depth : Nat) : List Json → Prop
  | [] => True
  | x :: xs => Fits depth x ∧ FitsItems depth xs

def FitsFields (depth : Nat) : List (String × Json) → Prop
  | [] => True
  | (_, v) :: fields => Fits depth v ∧ FitsFields depth fields

end

/-! ## Blanks -/

theorem skipSpace_append {blanks : List Char} (h : ∀ c ∈ blanks, isSpace c = true)
    (s : List Char) : skipSpace (blanks ++ s) = skipSpace s :=
  List.dropWhile_append_of_pos h

theorem skipSpace_cons {c : Char} (h : isSpace c = false) (s : List Char) :
    skipSpace (c :: s) = c :: s := by
  simp [skipSpace, h]

/-- Blanks are skipped up to the first character that is none. -/
theorem skipSpace_blanks {blanks : List Char} (hblanks : ∀ c ∈ blanks, isSpace c = true) {c : Char}
    (hc : isSpace c = false) (s : List Char) : skipSpace (blanks ++ c :: s) = c :: s := by
  rw [skipSpace_append hblanks, skipSpace_cons hc]

theorem lead_blank (l : Layout) (depth : Nat) : ∀ c ∈ l.lead depth, isSpace c = true := by
  intro c hc
  unfold Layout.lead at hc
  split at hc
  · rcases List.mem_cons.mp hc with rfl | hc
    · rfl
    · rw [List.eq_of_mem_replicate hc]
      rfl
  · cases hc

theorem separator_eq (l : Layout) (depth : Nat) :
    ∃ blanks, l.separator depth = ',' :: blanks ∧ ∀ c ∈ blanks, isSpace c = true := by
  unfold Layout.separator
  cases l.spacing with
  | dense => exact ⟨[], rfl, by simp⟩
  | spaced => exact ⟨[' '], rfl, by simp [isSpace]⟩
  | indented => exact ⟨l.lead depth, rfl, lead_blank l depth⟩

theorem colon_eq (l : Layout) :
    ∃ blanks, l.colon = ':' :: blanks ∧ ∀ c ∈ blanks, isSpace c = true := by
  unfold Layout.colon
  split
  · exact ⟨[], rfl, by simp⟩
  · exact ⟨[' '], rfl, by simp [isSpace]⟩

theorem ends_cons {c : Char} (hc : c.isDigit = false ∧ c ≠ '.' ∧ c ≠ 'e' ∧ c ≠ 'E')
    (s : List Char) : Ends (c :: s) := by
  intro d r h
  rw [← (List.cons.inj h).1]
  exact hc

theorem ends_lead (l : Layout) (depth : Nat) {s : List Char} (h : Ends s) :
    Ends (l.lead depth ++ s) := by
  unfold Layout.lead
  split
  · exact ends_cons (by decide) _
  · exact h

/-- A value starts with no blank and with no bracket that closes. -/
theorem write_cons (l : Layout) (indent : Nat) {depth : Nat} {j : Json} (h : Fits depth j) :
    ∃ c s, write l indent j = c :: s ∧ isSpace c = false ∧ c ≠ ']' := by
  cases j with
  | null => exact ⟨_, _, rfl, rfl, by decide⟩
  | bool b => cases b <;> exact ⟨_, _, rfl, rfl, by decide⟩
  | int n =>
    obtain ⟨c, s, hcons, hc⟩ := toString_cons n
    refine ⟨c, s, hcons, ?_⟩
    rcases hc with rfl | hc
    · exact ⟨rfl, by decide⟩
    · have hne {d : Char} (hd : d.isDigit = false) : c ≠ d := (ne_of_isDigit hc hd).symm
      refine ⟨?_, hne rfl⟩
      simp [isSpace, hne (d := ' ') rfl, hne (d := '\t') rfl, hne (d := '\n') rfl,
        hne (d := '\r') rfl]
  | real x => simp [Fits] at h
  | str s => exact ⟨_, _, rfl, rfl, by decide⟩
  | arr items => cases items <;> exact ⟨_, _, rfl, rfl, by decide⟩
  | obj fields => rcases fields with _ | ⟨⟨k, v⟩, fields⟩ <;> exact ⟨_, _, rfl, rfl, by decide⟩

/-! ## One step of reading -/

section

variable {fuel depth : Nat} {s rest : List Char}

theorem readValue_word {c : Char} (hquote : c ≠ '\x22') (harr : c ≠ '[') (hobj : c ≠ '\x7b') :
    readValue (fuel + 1) depth (c :: s) = readWord (c :: s) := by
  simp [readValue, hquote, harr, hobj]

theorem readValue_items {c : Char} {r : List Char} (h : skipSpace r = c :: s) (hc : c ≠ ']') :
    readValue (fuel + 1) (depth + 1) ('[' :: r) = readItems fuel depth (c :: s) [] := by
  simp [readValue, h, hc]

theorem readValue_fields {r : List Char} (h : skipSpace r = '\x22' :: s) :
    readValue (fuel + 1) (depth + 1) ('\x7b' :: r) = readFields fuel depth ('\x22' :: s) [] := by
  simp [readValue, h]

theorem readItems_last {v : Json} {after : List Char} {acc : List Json}
    (h : readValue fuel depth s = .ok (v, rest)) (hrest : skipSpace rest = ']' :: after) :
    readItems (fuel + 1) depth s acc = .ok (arr (v :: acc).reverse, after) := by
  simp [readItems, h, hrest]

theorem readItems_more {v : Json} {after : List Char} {acc : List Json}
    (h : readValue fuel depth s = .ok (v, rest)) (hrest : skipSpace rest = ',' :: after) :
    readItems (fuel + 1) depth s acc = readItems fuel depth (skipSpace after) (v :: acc) := by
  simp [readItems, h, hrest]

theorem readFields_last {k : List Char} {v : Json} {r r₂ after : List Char}
    {acc : List (String × Json)} (hkey : readString ('\x22' :: s) fuel s [] = .ok (k, r))
    (hcolon : skipSpace r = ':' :: r₂)
    (hvalue : readValue fuel depth (skipSpace r₂) = .ok (v, rest))
    (hrest : skipSpace rest = '\x7d' :: after) :
    readFields (fuel + 1) depth ('\x22' :: s) acc =
      .ok (obj (insertField (String.ofList k) v acc), after) := by
  simp [readFields, hkey, hcolon, hvalue, hrest]

theorem readFields_more {k : List Char} {v : Json} {r r₂ after : List Char}
    {acc : List (String × Json)} (hkey : readString ('\x22' :: s) fuel s [] = .ok (k, r))
    (hcolon : skipSpace r = ':' :: r₂)
    (hvalue : readValue fuel depth (skipSpace r₂) = .ok (v, rest))
    (hrest : skipSpace rest = ',' :: after) :
    readFields (fuel + 1) depth ('\x22' :: s) acc =
      readFields fuel depth (skipSpace after) (insertField (String.ofList k) v acc) := by
  simp [readFields, hkey, hcolon, hvalue, hrest]

end

/-! ## Items and fields in a row -/

/-- Items with what stands between them. -/
def writeRow (l : Layout) (indent : Nat) : List Json → List Char
  | [] => []
  | x :: xs => write l indent x ++ writeItems l indent xs

/-- Fields with what stands between them. -/
def writeFieldRow (l : Layout) (indent : Nat) : List (String × Json) → List Char
  | [] => []
  | (k, v) :: fields =>
    writeString l.ascii k ++ l.colon ++ write l indent v ++ writeFields l indent fields

theorem writeItems_cons (l : Layout) (indent : Nat) (x : Json) (xs : List Json) :
    writeItems l indent (x :: xs) = l.separator indent ++ writeRow l indent (x :: xs) := by
  simp [writeItems, writeRow]

theorem writeFields_cons (l : Layout) (indent : Nat) (f : String × Json)
    (fields : List (String × Json)) :
    writeFields l indent (f :: fields) =
      l.separator indent ++ writeFieldRow l indent (f :: fields) := by
  simp [writeFields, writeFieldRow]

theorem ends_writeItems (l : Layout) (indent : Nat) (xs : List Json) {close : List Char}
    (h : Ends close) : Ends (writeItems l indent xs ++ close) := by
  cases xs with
  | nil => exact h
  | cons x xs =>
    obtain ⟨blanks, hsep, _⟩ := separator_eq l indent
    rw [writeItems_cons, hsep]
    exact ends_cons (by decide) _

theorem ends_writeFields (l : Layout) (indent : Nat) (fields : List (String × Json))
    {close : List Char} (h : Ends close) : Ends (writeFields l indent fields ++ close) := by
  cases fields with
  | nil => exact h
  | cons f fields =>
    obtain ⟨blanks, hsep, _⟩ := separator_eq l indent
    rw [writeFields_cons, hsep]
    exact ends_cons (by decide) _

/-! ## Values -/

theorem fits_arr {depth : Nat} {items : List Json} (h : Fits depth (arr items)) :
    ∃ d, depth = d + 1 ∧ FitsItems d items := by
  cases depth with
  | zero => simp [Fits] at h
  | succ d => exact ⟨d, rfl, by simpa only [Fits] using h⟩

theorem fits_obj {depth : Nat} {fields : List (String × Json)} (h : Fits depth (obj fields)) :
    ∃ d, depth = d + 1 ∧ FitsFields d fields := by
  cases depth with
  | zero => simp [Fits] at h
  | succ d => exact ⟨d, rfl, by simpa only [Fits] using h⟩

theorem writeRow_cons (l : Layout) (indent : Nat) {depth : Nat} {items : List Json}
    (hne : items ≠ []) (h : FitsItems depth items) (close : List Char) :
    ∃ c s, writeRow l indent items ++ close = c :: s ∧ isSpace c = false ∧ c ≠ ']' := by
  cases items with
  | nil => exact absurd rfl hne
  | cons x xs =>
    obtain ⟨c, s, hcons, hc⟩ := write_cons l indent h.1
    exact ⟨c, s ++ writeItems l indent xs ++ close, by simp [writeRow, hcons], hc⟩

theorem skipSpace_writeRow (l : Layout) (indent : Nat) {depth : Nat} {items : List Json}
    (hne : items ≠ []) (h : FitsItems depth items) {blanks : List Char}
    (hblanks : ∀ c ∈ blanks, isSpace c = true) (close : List Char) :
    skipSpace (blanks ++ (writeRow l indent items ++ close)) =
      writeRow l indent items ++ close := by
  obtain ⟨c, s, hcons, hc, _⟩ := writeRow_cons l indent hne h close
  rw [hcons, skipSpace_blanks hblanks hc]

theorem writeFieldRow_cons (l : Layout) (indent : Nat) {fields : List (String × Json)}
    (hne : fields ≠ []) (close : List Char) :
    ∃ s, writeFieldRow l indent fields ++ close = '\x22' :: s := by
  cases fields with
  | nil => exact absurd rfl hne
  | cons f fields => exact ⟨_, rfl⟩

theorem skipSpace_writeFieldRow (l : Layout) (indent : Nat) {fields : List (String × Json)}
    (hne : fields ≠ []) {blanks : List Char} (hblanks : ∀ c ∈ blanks, isSpace c = true)
    (close : List Char) :
    skipSpace (blanks ++ (writeFieldRow l indent fields ++ close)) =
      writeFieldRow l indent fields ++ close := by
  obtain ⟨s, hcons⟩ := writeFieldRow_cons l indent hne close
  rw [hcons, skipSpace_blanks hblanks rfl]

/-- Items stand in a row between brackets. -/
theorem write_arr_cons (l : Layout) (indent : Nat) (x : Json) (xs : List Json) (rest : List Char) :
    write l indent (arr (x :: xs)) ++ rest =
      '[' :: (l.lead (indent + 1) ++
        (writeRow l (indent + 1) (x :: xs) ++ (l.lead indent ++ ']' :: rest))) := by
  simp [write, writeRow]

theorem write_obj_cons (l : Layout) (indent : Nat) (f : String × Json)
    (fields : List (String × Json)) (rest : List Char) :
    write l indent (obj (f :: fields)) ++ rest =
      '\x7b' :: (l.lead (indent + 1) ++
        (writeFieldRow l (indent + 1) (f :: fields) ++ (l.lead indent ++ '\x7d' :: rest))) := by
  simp [write, writeFieldRow]

-- The induction is on the value. Twice the length of what is left stays within the fuel, since every
-- item takes two steps and has at least one character.
mutual

/-- A value is read back up to what follows it. -/
theorem readValue_write (l : Layout) (indent : Nat) : ∀ (j : Json) (depth fuel : Nat)
    (rest : List Char), Fits depth j → Ends rest →
    2 * (write l indent j ++ rest).length ≤ fuel + 1 →
    readValue (fuel + 1) depth (write l indent j ++ rest) = .ok (reread l.ascii j, rest)
  | null, depth, fuel, rest, _, _, _ => by
    simp [write, readValue, readWord, reread]
  | bool b, depth, fuel, rest, _, _, _ => by
    cases b <;> simp [write, readValue, readWord, reread]
  | int n, depth, fuel, rest, hfits, hends, _ => by
    simp only [Fits] at hfits
    obtain ⟨c, s, hcons, hc⟩ := toString_cons n
    have hread := readWord_int hfits hends
    simp only [write, reread]
    rw [hcons, List.cons_append] at hread ⊢
    rw [← hread]
    rcases hc with rfl | hc
    · exact readValue_word (by decide) (by decide) (by decide)
    · have hne {d : Char} (hd : d.isDigit = false) : c ≠ d := (ne_of_isDigit hc hd).symm
      exact readValue_word (hne rfl) (hne rfl) (hne rfl)
  | real x, depth, _, _, hfits, _, _ => by
    simp [Fits] at hfits
  | str s, depth, fuel, rest, _, _, hfuel => by
    have hlength : (writeString l.ascii s).length ≤ fuel := by
      simp only [write, writeString, List.length_append, List.length_cons] at hfuel ⊢
      omega
    obtain ⟨chars, hcons, hread⟩ := readString_writeString l.ascii s rest fuel hlength
    rw [write, hcons]
    simp only [readValue, hread, reread]
    rfl
  | arr [], depth, fuel, rest, hfits, _, _ => by
    obtain ⟨depth, rfl, _⟩ := fits_arr hfits
    simp [write, readValue, reread, rereadItems, skipSpace, isSpace]
  | arr (x :: xs), depth, fuel, rest, hfits, hends, hfuel => by
    obtain ⟨depth, rfl, hitems⟩ := fits_arr hfits
    rw [write_arr_cons] at hfuel ⊢
    simp only [List.length_cons, List.length_append] at hfuel
    obtain ⟨fuel, rfl⟩ : ∃ f, fuel = f + 1 := ⟨fuel - 1, by omega⟩
    have hskip := skipSpace_writeRow l (indent + 1) (List.cons_ne_nil x xs) hitems
      (lead_blank l (indent + 1)) (l.lead indent ++ ']' :: rest)
    obtain ⟨c, s, hcons, _, hc⟩ := writeRow_cons l (indent + 1) (List.cons_ne_nil x xs) hitems
      (l.lead indent ++ ']' :: rest)
    have hread := readItems_write l (indent + 1) (x :: xs) depth fuel
      (l.lead indent ++ ']' :: rest) rest [] (List.cons_ne_nil x xs) hitems
      (ends_lead l indent (ends_cons (by decide) _))
      (skipSpace_blanks (lead_blank l indent) rfl rest)
      (by simp only [List.length_cons, List.length_append]; omega)
    rw [hcons] at hskip hread
    rw [hcons, readValue_items hskip hc, hread, reread]
    rfl
  | obj [], depth, fuel, rest, hfits, _, _ => by
    obtain ⟨depth, rfl, _⟩ := fits_obj hfits
    simp [write, readValue, reread, rereadFields, skipSpace, isSpace]
  | obj (f :: fields), depth, fuel, rest, hfits, hends, hfuel => by
    obtain ⟨depth, rfl, hfields⟩ := fits_obj hfits
    rw [write_obj_cons] at hfuel ⊢
    simp only [List.length_cons, List.length_append] at hfuel
    obtain ⟨fuel, rfl⟩ : ∃ f, fuel = f + 1 := ⟨fuel - 1, by omega⟩
    have hskip := skipSpace_writeFieldRow l (indent + 1) (List.cons_ne_nil f fields)
      (lead_blank l (indent + 1)) (l.lead indent ++ '\x7d' :: rest)
    obtain ⟨s, hcons⟩ := writeFieldRow_cons l (indent + 1) (List.cons_ne_nil f fields)
      (l.lead indent ++ '\x7d' :: rest)
    have hread := readFields_write l (indent + 1) (f :: fields) depth fuel
      (l.lead indent ++ '\x7d' :: rest) rest [] (List.cons_ne_nil f fields) hfields
      (ends_lead l indent (ends_cons (by decide) _))
      (skipSpace_blanks (lead_blank l indent) rfl rest)
      (by simp only [List.length_cons, List.length_append]; omega)
    rw [hcons] at hskip hread
    rw [hcons, readValue_fields hskip, hread, reread]

theorem readItems_write (l : Layout) (indent : Nat) : ∀ (items : List Json) (depth fuel : Nat)
    (close rest : List Char) (acc : List Json), items ≠ [] → FitsItems depth items →
    Ends close → skipSpace close = ']' :: rest →
    2 * (writeRow l indent items ++ close).length ≤ fuel →
    readItems (fuel + 1) depth (writeRow l indent items ++ close) acc =
      .ok (arr (acc.reverse ++ rereadItems l.ascii items), rest)
  | [], depth, fuel, close, rest, acc, hne, hfits, hends, hclose, hfuel => absurd rfl hne
  | x :: xs, depth, fuel, close, rest, acc, hne, hfits, hends, hclose, hfuel => by
    obtain ⟨c, s, hcons, _⟩ := write_cons l indent hfits.1
    have hlength : 0 < (write l indent x).length := by simp [hcons]
    rw [writeRow, List.append_assoc] at hfuel ⊢
    simp only [List.length_append] at hfuel
    obtain ⟨fuel, rfl⟩ : ∃ f, fuel = f + 1 := ⟨fuel - 1, by omega⟩
    have hvalue := readValue_write l indent x depth fuel (writeItems l indent xs ++ close) hfits.1
      (ends_writeItems l indent xs hends) (by simp only [List.length_append]; omega)
    cases xs with
    | nil =>
      rw [readItems_last hvalue hclose]
      simp [rereadItems]
    | cons y ys =>
      obtain ⟨blanks, hsep, hblanks⟩ := separator_eq l indent
      have hcomma : skipSpace (writeItems l indent (y :: ys) ++ close) =
          ',' :: (blanks ++ (writeRow l indent (y :: ys) ++ close)) := by
        rw [writeItems_cons, hsep]
        simp [skipSpace_cons (c := ',') rfl]
      rw [readItems_more hvalue hcomma,
        skipSpace_writeRow l indent (List.cons_ne_nil y ys) hfits.2 hblanks,
        readItems_write l indent (y :: ys) depth fuel close rest _ (List.cons_ne_nil y ys) hfits.2
          hends hclose ?_]
      · simp [rereadItems]
      · simp only [writeItems_cons, hsep, List.length_append, List.length_cons] at hfuel ⊢
        omega

theorem readFields_write (l : Layout) (indent : Nat) : ∀ (fields : List (String × Json))
    (depth fuel : Nat) (close rest : List Char) (acc : List (String × Json)), fields ≠ [] →
    FitsFields depth fields → Ends close → skipSpace close = '\x7d' :: rest →
    2 * (writeFieldRow l indent fields ++ close).length ≤ fuel →
    readFields (fuel + 1) depth (writeFieldRow l indent fields ++ close) acc =
      .ok (obj (rereadFields l.ascii fields acc), rest)
  | [], depth, fuel, close, rest, acc, hne, hfits, hends, hclose, hfuel => absurd rfl hne
  | (k, v) :: fields, depth, fuel, close, rest, acc, hne, hfits, hends, hclose, hfuel => by
    obtain ⟨pad, hcolon, hpad⟩ := colon_eq l
    obtain ⟨c, s, hcons, hc, _⟩ := write_cons l indent hfits.1
    rw [writeFieldRow, hcolon] at hfuel ⊢
    simp only [List.append_assoc, List.cons_append] at hfuel ⊢
    have hquotes : 0 < (writeString l.ascii k).length := by simp [writeString]
    simp only [List.length_append, List.length_cons] at hfuel
    obtain ⟨fuel, rfl⟩ : ∃ f, fuel = f + 1 := ⟨fuel - 1, by omega⟩
    obtain ⟨chars, hchars, hkey⟩ := readString_writeString l.ascii k
      (':' :: (pad ++ (write l indent v ++ (writeFields l indent fields ++ close))))
      (fuel + 1) (by omega)
    have hskip : skipSpace (pad ++ (write l indent v ++ (writeFields l indent fields ++ close))) =
        write l indent v ++ (writeFields l indent fields ++ close) := by
      rw [hcons, List.cons_append, skipSpace_blanks hpad hc]
    have hvalue := readValue_write l indent v depth fuel (writeFields l indent fields ++ close)
      hfits.1 (ends_writeFields l indent fields hends)
      (by simp only [List.length_append]; omega)
    rw [← hskip] at hvalue
    rw [hchars]
    cases fields with
    | nil =>
      rw [readFields_last hkey (skipSpace_cons rfl _) hvalue hclose]
      simp [rereadFields]
    | cons f fields =>
      obtain ⟨blanks, hsep, hblanks⟩ := separator_eq l indent
      have hcomma : skipSpace (writeFields l indent (f :: fields) ++ close) =
          ',' :: (blanks ++ (writeFieldRow l indent (f :: fields) ++ close)) := by
        rw [writeFields_cons, hsep]
        simp [skipSpace_cons (c := ',') rfl]
      rw [readFields_more hkey (skipSpace_cons rfl _) hvalue hcomma,
        skipSpace_writeFieldRow l indent (List.cons_ne_nil f fields) hblanks,
        readFields_write l indent (f :: fields) depth fuel close rest _
          (List.cons_ne_nil f fields) hfits.2 hends hclose ?_]
      · simp [rereadFields]
      · simp only [writeFields_cons, hsep, List.length_append, List.length_cons] at hfuel ⊢
        omega

end

/-- **What is written is read back.** -/
theorem read_write (l : Layout) {j : Json} (h : Fits maxDepth j) :
    read (write l 0 j) = .ok (reread l.ascii j) := by
  obtain ⟨c, s, hcons, hc, _⟩ := write_cons l 0 h
  have hskip : skipSpace (write l 0 j) = write l 0 j := by rw [hcons, skipSpace_cons hc]
  have hread := readValue_write l 0 j maxDepth (2 * (write l 0 j).length + 1) [] h ends_nil
    (by simp only [List.append_nil]; omega)
  rw [List.append_nil] at hread
  unfold read readDocument
  rw [hskip, hread]
  rfl

/-! ## Documents that come back as they were -/

theorem insertField_new {k : String} {acc : List (String × Json)} (h : k ∉ acc.map Prod.fst)
    (v : Json) : insertField k v acc = acc ++ [(k, v)] := by
  induction acc with
  | nil => rfl
  | cons f acc ih =>
    rw [List.map_cons, List.mem_cons, not_or] at h
    simp [insertField, Ne.symm h.1, ih h.2]

/-- Fields with different whole keys come back one by one. -/
theorem rereadFields_eq (ascii : Bool) {fields acc : List (String × Json)}
    (hwhole : ascii = true → ∀ f ∈ fields, Whole f.1.toList)
    (hnodup : (acc.map Prod.fst ++ fields.map Prod.fst).Nodup) :
    rereadFields ascii fields acc = acc ++ fields.map fun f => (f.1, reread ascii f.2) := by
  induction fields generalizing acc with
  | nil => simp [rereadFields]
  | cons f fields ih =>
    obtain ⟨k, v⟩ := f
    have hkey : String.ofList (rereadText ascii k.toList) = k := by
      rw [rereadText_whole fun ha => hwhole ha (k, v) List.mem_cons_self, String.ofList_toList]
    have hnew : k ∉ acc.map Prod.fst := by
      intro hk
      exact (List.nodup_append.mp hnodup).2.2 k hk k (by simp) rfl
    rw [rereadFields, hkey, insertField_new hnew, ih]
    · simp
    · exact fun ha f hf => hwhole ha f (List.mem_cons_of_mem _ hf)
    · simpa using hnodup

theorem reread_obj {ascii : Bool} {fields : List (String × Json)}
    (hwhole : ascii = true → ∀ k ∈ fields.map Prod.fst, Whole k.toList)
    (hnodup : (fields.map Prod.fst).Nodup) :
    reread ascii (obj fields) = obj (fields.map fun f => (f.1, reread ascii f.2)) := by
  rw [reread, rereadFields_eq ascii (fun ha f hf => hwhole ha f.1 (List.mem_map_of_mem hf)),
    List.nil_append]
  simpa using hnodup

theorem rereadItems_eq_map (ascii : Bool) (items : List Json) :
    rereadItems ascii items = items.map (reread ascii) := by
  induction items with
  | nil => rfl
  | cons x xs ih => rw [rereadItems, ih, List.map_cons]

theorem fitsItems_iff {depth : Nat} {items : List Json} :
    FitsItems depth items ↔ ∀ x ∈ items, Fits depth x := by
  induction items with
  | nil => simp [FitsItems]
  | cons x xs ih => rw [FitsItems, ih, List.forall_mem_cons]

end Assay.Json
