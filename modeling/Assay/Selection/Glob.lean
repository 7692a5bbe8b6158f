/-!
# Glob patterns

A glob is matched against a whole text: a star stands for any text, a question mark for any
character and brackets for one character of a set, where an exclamation mark in front takes the
others. Slashes are characters like all others.

* `GlobItem`, `Glob.parse`: a glob as data;
* `Glob.matchesList`: whether the items match a text;
* `Glob.accepts`: whether a written glob matches a text. All ends of the text are answered together,
  item by item, so that stars cost no search: `Glob.accepts_eq`.

In a set a dash between two characters stands for the range between them. A range whose ends are in
the wrong order is empty and goes, with both its ends.
-/

namespace Assay

/-- A part of a glob. -/
inductive GlobItem where
  | star
  | anyChar
  | char (c : Char)
  /-- One character of some intervals, or of none of them. -/
  | set (negated : Bool) (intervals : List (Char × Char))
  deriving DecidableEq, Repr

namespace Glob

/-- How many characters at the start of a set are no end of it: an exclamation mark, and a closing
bracket that comes first after it. -/
def setLead : List Char → Nat
  | '!' :: ']' :: _ => 2
  | '!' :: _ => 1
  | ']' :: _ => 1
  | _ => 0

/-- What stands between brackets, and what follows; the text starts after the opening bracket. -/
def setBody? (s : List Char) : Option (List Char × List Char) :=
  match (s.drop (setLead s)).dropWhile (· != ']') with
  | [] => none
  | _ :: rest => some (s.take (setLead s) ++ (s.drop (setLead s)).takeWhile (· != ']'), rest)

/-- What follows a set is shorter than the text. -/
theorem length_of_setBody? {s body rest : List Char} (h : setBody? s = some (body, rest)) :
    rest.length < s.length := by
  unfold setBody? at h
  split at h
  · cases h
  · rename_i c r hd
    have hr : r = rest := by
      simp only [Option.some.injEq, Prod.mk.injEq] at h
      exact h.2
    have hle := (List.dropWhile_suffix (p := (· != ']')) (l := s.drop (setLead s))).length_le
    rw [hd, List.length_cons, List.length_drop, hr] at hle
    omega

/-- A set cut at its dashes, the first of which may come after `skip` characters and every other
two characters after the one before. -/
def chunksOf (skip : Nat) (s : List Char) : List (List Char) :=
  match _h : (s.drop skip).findIdx? (· == '-') with
  | none => [s]
  | some i => s.take (skip + i) :: chunksOf 2 (s.drop (skip + i + 1))
termination_by s.length
decreasing_by
  have hlt : i < (s.drop skip).length := (List.findIdx?_eq_some_iff_getElem.mp _h).1
  simp only [List.length_drop] at hlt ⊢
  omega

/-- A dash at the end belongs to the chunk before it. -/
def closeChunks : List (List Char) → List (List Char)
  | [] => []
  | [c, []] => [c ++ ['-']]
  | c :: rest => c :: closeChunks rest

/-- Chunks without the ranges whose ends are in the wrong order. -/
def dropEmptyRanges : List (List Char) → List (List Char)
  | [] => []
  | c :: rest =>
    match dropEmptyRanges rest with
    | [] => [c]
    | d :: ds =>
      match c.getLast?, d.head? with
      | some a, some b => if b < a then (c.dropLast ++ d.tail) :: ds else c :: d :: ds
      | _, _ => c :: d :: ds

/-- The ranges between neighbouring chunks. -/
def rangesOf : List (List Char) → List (Char × Char)
  | c :: d :: rest =>
    (match c.getLast?, d.head? with
      | some a, some b => [(a, b)]
      | _, _ => []) ++ rangesOf (d :: rest)
  | _ => []

/-- The set that stands between brackets. -/
def setOf (body : List Char) : GlobItem :=
  let chunks :=
    dropEmptyRanges (closeChunks (chunksOf (if body.head? == some '!' then 2 else 1) body))
  match chunks.flatten with
  | '!' :: members => .set true (members.map (fun c => (c, c)) ++ rangesOf chunks)
  | members => .set false (members.map (fun c => (c, c)) ++ rangesOf chunks)

/-- Items after a star; stars in a row are one. -/
def afterStar : List GlobItem → List GlobItem
  | .star :: items => .star :: items
  | items => .star :: items

/-- A written glob as data. An opening bracket that is never closed stands for itself. -/
def parse (s : List Char) : List GlobItem :=
  match s with
  | [] => []
  | c :: rest =>
    if c == '*' then afterStar (parse rest)
    else if c == '?' then .anyChar :: parse rest
    else if c == '[' then
      match h : setBody? rest with
      | some (body, after) =>
        have := length_of_setBody? h
        setOf body :: parse after
      | none => .char '[' :: parse rest
    else .char c :: parse rest
termination_by s.length

/-- Whether a character is in some intervals. -/
def inIntervals (intervals : List (Char × Char)) (x : Char) : Bool :=
  intervals.any fun (a, b) => a ≤ x && x ≤ b

/-- Whether an item takes a character; a star takes texts. -/
def takes : GlobItem → Char → Bool
  | .star, _ => false
  | .anyChar, _ => true
  | .char c, x => x == c
  | .set negated intervals, x => inIntervals intervals x != negated

/-- The ends of a text, the longest first. -/
def ends : List Char → List (List Char)
  | [] => [[]]
  | c :: rest => (c :: rest) :: ends rest

/-- Whether the items match all of a text. -/
def matchesList : List GlobItem → List Char → Bool
  | [], s => s.isEmpty
  | .star :: items, s => (ends s).any (matchesList items)
  | _ :: _, [] => false
  | item :: items, x :: rest => takes item x && matchesList items rest

/-- Whether something holds at a place or at a later one. -/
def nowOrLater : List Bool → List Bool
  | [] => []
  | b :: rest =>
    match nowOrLater rest with
    | [] => [b]
    | later :: more => (b || later) :: later :: more

/-- Whether the items match, for every end of a text. -/
def matchesEnds : List GlobItem → List Char → List Bool
  | [], s => (ends s).map List.isEmpty
  | .star :: items, s => nowOrLater (matchesEnds items s)
  | item :: items, s =>
    List.zipWith (fun x later => takes item x && later) s (matchesEnds items s).tail ++ [false]

/-- Whether a written glob matches all of a text. -/
def accepts (glob text : String) : Bool :=
  (matchesEnds (parse glob.toList) text.toList).headD false

theorem ends_eq_cons (s : List Char) : ∃ more, ends s = s :: more := by
  cases s with
  | nil => exact ⟨[], rfl⟩
  | cons c rest => exact ⟨ends rest, rfl⟩

theorem nowOrLater_map (f : List Char → Bool) (s : List Char) :
    nowOrLater ((ends s).map f) = (ends s).map fun t => (ends t).any f := by
  induction s with
  | nil => simp [ends, nowOrLater]
  | cons c rest ih =>
    obtain ⟨more, h⟩ := ends_eq_cons rest
    simp only [ends, List.map_cons, nowOrLater, ih, List.any_cons]
    rw [h, List.map_cons]
    simp only [h]

theorem zipWith_takes (item : GlobItem) (items : List GlobItem) (s : List Char)
    (h : item ≠ .star) :
    List.zipWith (fun x later => takes item x && later) s
      ((ends s).map (matchesList items)).tail ++ [false] =
      (ends s).map (matchesList (item :: items)) := by
  induction s with
  | nil => cases item <;> simp_all [ends, matchesList]
  | cons c rest ih =>
    obtain ⟨more, hr⟩ := ends_eq_cons rest
    simp only [ends, List.map_cons, List.tail_cons] at ih ⊢
    rw [← ih, hr, List.map_cons, List.zipWith_cons_cons, List.tail_cons, List.cons_append]
    cases item <;> simp_all [matchesList]

/-- The answers for all ends of a text are those for each of them. -/
theorem matchesEnds_eq (items : List GlobItem) (s : List Char) :
    matchesEnds items s = (ends s).map (matchesList items) := by
  induction items with
  | nil => exact List.map_congr_left fun t _ => by simp [matchesList]
  | cons item items ih =>
    cases item with
    | star =>
      rw [matchesEnds, ih, nowOrLater_map]
      exact List.map_congr_left fun t _ => by simp [matchesList]
    | anyChar | char | set =>
      rw [matchesEnds, ih, zipWith_takes] <;> simp

theorem accepts_eq (glob text : String) :
    accepts glob text = matchesList (parse glob.toList) text.toList := by
  obtain ⟨more, h⟩ := ends_eq_cons text.toList
  rw [accepts, matchesEnds_eq, h, List.map_cons, List.headD_cons]

end Glob

end Assay
