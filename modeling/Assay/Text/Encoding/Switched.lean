import Assay.Text.Encoding.Korean
import Assay.Text.Encoding.Planes
import Assay.Text.Encoding.Simplified
import Assay.Text.Encoding.SingleByte
import Assay.Text.Encoding.Stateful

/-!
# Encodings with switches

Some encodings stay among the bytes of ASCII and switch between sets of characters. A switch is a
sequence of bytes that starts with the control character for escapes.

* `CharSet`: a set of characters;
* `Switched`: which sets there are and how they are designated;
* `Switched.machine`: the encoding;
* `tilde`: an encoding that switches by a tilde.
-/

namespace Assay.Text

/-- A set of characters. -/
inductive CharSet where
  | ascii
  /-- Letters of Japan: ASCII but for two signs. -/
  | roman
  | narrow
  | japanese
  | supplement
  | firstPlane (edition : Japanese.Edition)
  | secondPlane
  | simplified
  | korean
  /-- Letters of western Europe, of which an escape takes one. -/
  | latin
  /-- Greek letters, of which an escape takes one. -/
  | greek
  deriving DecidableEq, Repr

/-- How many bytes a character has. -/
def CharSet.width : CharSet → Nat
  | ascii | roman | narrow | latin | greek => 1
  | _ => 2

/-- The character of one byte. -/
def CharSet.single? (s : CharSet) (n : Nat) : Option Char :=
  match s with
  | roman => some (Japanese.romanLetter n)
  | narrow => if 0x21 ≤ n ∧ n ≤ 0x5F then some (Japanese.narrow (n + 0x80)) else none
  | latin | greek => none
  | _ => some (Char.ofNat n)

/-- Letters that later editions of the page of Greek letters have added. -/
def newGreek : List Char := ['€', '₯', 'ͺ']

/-- The page of the Greek letters. -/
def greekPage : Array Char :=
  (((pages.find? fun p => p.names.contains "greek").map Page.cells).getD #[])

/-- The character of one byte behind an escape for it. -/
def CharSet.afterEscape? (s : CharSet) (n : Nat) : Option Char :=
  match s with
  | latin => if n < 0x80 then some (Char.ofNat (n + 0x80)) else none
  | greek =>
    if n < 0x20 then some (Char.ofNat (n + 0x80))
    else if 0x80 ≤ n then some (Char.ofNat (n - 0x80))
    else (greekPage[n - 0x20]?).filter fun c => c != noCharacter && !newGreek.contains c
  | _ => if n < 0x80 then some (Char.ofNat n) else none

/-- What a row and a place stand for. -/
def CharSet.double? (s : CharSet) (row place : Nat) : Option (List Char) :=
  if row = 0 ∨ place = 0 then none
  else
    match s with
    | japanese => (Japanese.japaneseAt? row place).map fun c => [c]
    | supplement => (Japanese.supplementAt? row place).map fun c => [c]
    | firstPlane e =>
      if (row, place) = (2, 18) then some ['~'] else Japanese.firstPlaneAt? e row place
    | secondPlane => (Japanese.secondPlaneAt? .revised row place).map fun c => [c]
    | simplified => (Simplified.simplifiedAt? row place).map fun c => [c]
    | korean =>
      if (row, place) = (4, 52) then some [Korean.filler]
      else (Korean.koreanAt? row place).map fun c => [c]
    | _ => none

/-- Which sets of characters there are, by the end of the sequence that designates them; whether two
control characters shift between two sets; and sets of which an escape takes one character. -/
structure Switched where
  sets : List (List Char × CharSet)
  shifts : Bool
  singles : List (List Char × CharSet)

/-- Whether the sign for a newer edition may stand in a sequence. -/
def Switched.hasEditions (e : Switched) : Bool := !e.shifts

/-- The sets in use. -/
structure Designated where
  first : CharSet
  second : CharSet
  third : CharSet
  shifted : Bool
  /-- Inside a sequence that designates nothing. -/
  passing : Bool
  deriving DecidableEq, Repr

/-- The last byte of a sequence. -/
def isSequenceEnd (n : Nat) : Bool :=
  0x40 ≤ n && n ≤ 0x5A

/-- The longest sequence that is looked for, without its first byte. -/
def maxSequence : Nat := 15

/-- One of the sets in use. -/
inductive Slot where
  | first
  | second
  | third
  deriving DecidableEq, Repr

/-- The sets in use with another one. -/
def Designated.put (d : Designated) (set : CharSet) : Slot → Designated
  | .first => { d with first := set }
  | .second => { d with second := set }
  | .third => { d with third := set }

/-- What a sequence designates, and the end that names the set. A sequence with the sign for a newer
edition names the set of Japan in a second one. -/
def designation? : List Char → Option (Slot × List Char)
  | ['$', c] => if c = '(' ∨ c = ')' then none else some (.first, ['$', c])
  | ['(', c] => some (.first, [c])
  | [')', c] => some (.second, [c])
  | ['.', c] => some (.third, [c])
  | ['$', '(', c] => some (.first, ['$', c])
  | ['$', ')', c] => some (.second, ['$', c])
  | [_, _, '\x1b', '$', 'B'] => some (.first, ['$', 'B'])
  | _ => none

/-- The set of a name for one of the sets in use. -/
def Switched.set? (e : Switched) (slot : Slot) (name : List Char) : Option CharSet :=
  if slot = .third ∧ e.singles.isEmpty then none
  else if name = ['B'] then some .ascii
  else (e.sets ++ e.singles).lookup name

/-- How many characters a sequence has up to its end; the sign for a newer edition goes on after its
own end. -/
def sequenceLength? (editions : Bool) : List Char → Option Nat
  | ['&', '@'] => if editions then none else some 2
  | '&' :: '@' :: _ :: rest =>
    if editions then (sequenceLength? editions rest).map (· + 3) else some 2
  | c :: rest =>
    if isSequenceEnd c.toNat then some 1 else (sequenceLength? editions rest).map (· + 1)
  | [] => none

/-- The sequence after an escape, up to its end. -/
def sequence? (editions : Bool) (bytes : List UInt8) : Option (List Char) :=
  let body := (bytes.take maxSequence).map fun b => Char.ofNat b.toNat
  (sequenceLength? editions body).map body.take

/-- One character of the third set, from what follows its escape. -/
def singleTurn (d : Designated) : List UInt8 → Turn Designated
  | [] => ⟨2, [replacement], d⟩
  | b :: _ =>
    match d.third.afterEscape? b.toNat with
    | some c => ⟨3, [c], d⟩
    | none => ⟨3, [replacement], d⟩

/-- An escape. -/
def escapeTurn (e : Switched) (d : Designated) (rest : List UInt8) : Turn Designated :=
  match rest.head?.map UInt8.toNat with
  | none => ⟨1, [replacement], d⟩
  | some n =>
    if !e.singles.isEmpty && n = 0x4E then singleTurn d rest.tail
    else if !"()$.&".toList.contains (Char.ofNat n) then
      ⟨1, ['\x1b'], { d with passing := true }⟩
    else
      match sequence? e.hasEditions rest with
      | none =>
        ⟨if rest.length < maxSequence then rest.length + 1 else 1, [replacement], d⟩
      | some cs =>
        let size := cs.length + 1
        let designated := do
          let (slot, name) ← designation? cs
          return d.put (← e.set? slot name) slot
        match designated with
        | none => ⟨size, [replacement], d⟩
        | some d => ⟨size, [], d⟩

/-- A character of the set in use. -/
def setTurn (d : Designated) (n : Nat) (rest : List UInt8) : Turn Designated :=
  let set := if d.shifted then d.second else d.first
  if set.width = 1 then
    match set.single? n with
    | some c => ⟨1, [c], d⟩
    | none => ⟨1, [replacement], d⟩
  else
    match rest.head?.map UInt8.toNat with
    | none => ⟨1, [replacement], d⟩
    | some m =>
      match set.double? (n - 0x20) (m - 0x20) with
      | some cs => ⟨2, cs, d⟩
      | none => ⟨2, [replacement], d⟩

/-- The bytes that may be kept for later as the start of a sequence. -/
def maxKept : Nat := 8

/-- A sequence without an end, of more bytes than can be kept; or an escape for a character of a
third set that has no single ones. -/
def Switched.stop? (e : Switched) (d : Designated) (bytes : List UInt8) : Option CharsetFault :=
  match bytes with
  | 0x1B :: c :: rest =>
    if d.passing then none
    else if !e.singles.isEmpty && c = 0x4E then
      if rest.isEmpty || [CharSet.ascii, .latin, .greek].contains d.third then none
      else some .noSingles
    else if "()$.&".toList.contains (Char.ofNat c.toNat) &&
        (sequence? e.hasEditions (c :: rest)).isNone && maxKept < bytes.length &&
        bytes.length ≤ maxSequence then some .tooMuchKept
    else none
  | _ => none

/-- An encoding with switches. -/
def Switched.machine (e : Switched) : Machine Designated where
  start := ⟨.ascii, .ascii, .ascii, false, false⟩
  turn d b rest :=
    let n := b.toNat
    if d.passing then ⟨1, [Char.ofNat n], { d with passing := !isSequenceEnd n }⟩
    else if n = 0x1B then escapeTurn e d rest
    else if e.shifts && n = 0x0F then ⟨1, [], { d with shifted := false }⟩
    else if e.shifts && n = 0x0E then ⟨1, [], { d with shifted := true }⟩
    else if n = 0x0A then ⟨1, ['\n'], { d with shifted := false }⟩
    else if n < 0x20 then ⟨1, [Char.ofNat n], d⟩
    else if 0x80 ≤ n then ⟨1, [replacement], d⟩
    else setTurn d n rest
  finish _ := []
  stop? := e.stop?

/-- The sets of Japan. -/
def japaneseSets : List (List Char × CharSet) :=
  [(['$', 'B'], .japanese), (['$', '@'], .japanese), (['J'], .roman)]

/-- The sets of Japan, by switches. -/
def japaneseSwitched : Switched := ⟨japaneseSets, false, []⟩

/-- The sets of Japan and the supplement. -/
def supplementSwitched : Switched := ⟨(['$', 'D'], .supplement) :: japaneseSets, false, []⟩

/-- The sets of Japan with the narrow letters. -/
def narrowSwitched : Switched := ⟨(['I'], .narrow) :: supplementSwitched.sets, false, []⟩

/-- The sets of Japan in the planes of an edition. -/
def planesSwitched (edition : Japanese.Edition) (name : Char) : Switched :=
  ⟨[(['$', 'B'], .japanese), (['$', name], .firstPlane edition), (['$', 'P'], .secondPlane)], false,
    []⟩

/-- The sets of three countries, and single letters of others. -/
def manySwitched : Switched :=
  ⟨(['$', 'C'], .korean) :: (['$', 'A'], .simplified) :: supplementSwitched.sets, false,
    [(['A'], .latin), (['F'], .greek)]⟩

/-- The set of Korea, as the second one. -/
def koreanSwitched : Switched := ⟨[(['$', 'C'], .korean)], true, []⟩

/-- A tilde switches to the set of China and back. A tilde before the end of a line takes the end
away. -/
def tilde : Machine Bool where
  start := false
  turn inSet b rest :=
    let n := b.toNat
    if n = 0x7E then
      match rest.head?.map UInt8.toNat with
      | none => ⟨1, [replacement], inSet⟩
      | some m =>
        if m = 0x7E && !inSet then ⟨2, ['~'], inSet⟩
        else if m = 0x7B && !inSet then ⟨2, [], true⟩
        else if m = 0x0A && !inSet then ⟨2, [], inSet⟩
        else if m = 0x7D && inSet then ⟨2, [], false⟩
        else ⟨1, [replacement], inSet⟩
    else if 0x80 ≤ n then ⟨1, [replacement], inSet⟩
    else if !inSet then ⟨1, [Char.ofNat n], inSet⟩
    else
      match rest.head?.map UInt8.toNat with
      | none => ⟨1, [replacement], inSet⟩
      | some m =>
        match CharSet.simplified.double? (n - 0x20) (m - 0x20) with
        | some cs => ⟨2, cs, inSet⟩
        | none => ⟨1, [replacement], inSet⟩
  finish _ := []

end Assay.Text
