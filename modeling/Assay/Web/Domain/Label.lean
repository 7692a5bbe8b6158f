import Assay.Web.Domain.Composition
import Assay.Web.Fault

/-!
# Labels of domain names

A domain name is made of labels with dots between them. A label is in composed form, has no hyphen
at its ends and no mark at its start, and holds only characters that are permitted, some of them
only beside certain others. A label with letters from right to left must be readable in one way
only.

* `isPermitted`: the characters that may stand anywhere;
* `contextFault?`: the rules for characters that may stand beside others only;
* `directionFault?`: the rules of direction;
* `checkLabel`: all rules.
-/

namespace Assay.Web.Domain

open Text (inRanges)

/-- A character that may stand anywhere. -/
def isPermitted (c : Char) : Bool :=
  let n := c.toNat
  permittedRows.any fun (a, b, step) => a ≤ n && n ≤ b && (n - a) % step == 0

/-- A mark. -/
def isMark (c : Char) : Bool :=
  inRanges markRanges c.toNat || inRanges spacingMarkRanges c.toNat

/-- The class of signs that kill the vowel of a letter. -/
def viramaOrder : Nat := 9

/-- Whether a text ends with a sign that kills a vowel. -/
def endsInVirama (before : List Char) : Bool :=
  (before.getLast?.map fun c => orderOf c == viramaOrder).getD false

/-- Whether the first of some characters that is no mark joins the letter on one of its sides. -/
def joins (table : List (Nat × Nat)) (s : List Char) : Bool :=
  ((s.find? fun c => !inRanges markRanges c.toNat).map fun c =>
    inRanges table c.toNat || inRanges joinsBothRanges c.toNat).getD false

/-- Whether a joiner may stand between two texts. The one that keeps letters apart may also stand
where they would join. -/
def joinerFits (c : Char) (before after : List Char) : Bool :=
  endsInVirama before ||
    (c.toNat == 0x200C && joins joinsLeftRanges before.reverse && joins joinsRightRanges after)

/-- An Arabic digit. -/
def isArabicDigit (c : Char) : Bool :=
  0x660 ≤ c.toNat && c.toNat ≤ 0x669

/-- An Arabic digit of the eastern form. -/
def isEasternDigit (c : Char) : Bool :=
  0x6F0 ≤ c.toNat && c.toNat ≤ 0x6F9

/-- Whether a character that may stand beside others only may stand between two texts: a middle dot
between two l, a Greek sign before Greek, a Hebrew sign after Hebrew, a Japanese dot along with
Japanese, and the digits of each form without those of the other. -/
def contextFits (c : Char) (before after : List Char) : Bool :=
  let n := c.toNat
  let label := before ++ c :: after
  if n == 0xB7 then before.getLast? == some 'l' && after.head? == some 'l'
  else if n == 0x375 then (after.head?.map fun d => inRanges greekRanges d.toNat).getD false
  else if n == 0x5F3 || n == 0x5F4 then
    (before.getLast?.map fun d => inRanges hebrewRanges d.toNat).getD false
  else if n == 0x30FB then label.any fun d => d != c && inRanges syllableRanges d.toNat
  else if isArabicDigit c then !label.any isEasternDigit
  else !label.any isArabicDigit

/-- A joiner. -/
def isJoiner (c : Char) : Bool :=
  c.toNat == 0x200C || c.toNat == 0x200D

/-- A character that may stand beside others only. -/
def isContextual (c : Char) : Bool :=
  [0xB7, 0x375, 0x5F3, 0x5F4, 0x30FB].contains c.toNat || isArabicDigit c || isEasternDigit c

/-- The fault of the first character that may not stand where it does; `before` is the label up to
here. -/
def characterFault? (before : List Char) : List Char → Option LabelFault
  | [] => none
  | c :: rest =>
    let position := before.length + 1
    let label := String.ofList (before ++ c :: rest)
    if isPermitted c then characterFault? (before ++ [c]) rest
    else if isJoiner c then
      if joinerFits c before rest then characterFault? (before ++ [c]) rest
      else some (.joiner c position label)
    else if isContextual c then
      if contextFits c before rest then characterFault? (before ++ [c]) rest
      else some (.context c position label)
    else some (.character c position label)

/-- The direction of a character. -/
inductive Direction where
  | left
  | right
  | arabic
  | number
  | arabicNumber
  | mark
  | neutral
  deriving DecidableEq, Repr

/-- The direction of a character that a label may hold. -/
def directionOf (c : Char) : Direction :=
  let n := c.toNat
  if c.isDigit || isEasternDigit c then .number
  else if isArabicDigit c || (0x10D30 ≤ n && n ≤ 0x10D39) then .arabicNumber
  else if c == '-' || isJoiner c || inRanges neutralRanges n then .neutral
  else if n < 0x300 then .left
  else if inRanges markRanges n then .mark
  else if inRanges rightToLeftRanges n then .right
  else if inRanges arabicRanges n then .arabic
  else .left

/-- A direction that makes a label one with letters from right to left. -/
def Direction.isFromRight : Direction → Bool
  | right | arabic | arabicNumber => true
  | _ => false

/-- A direction that the characters of a label may have. -/
def Direction.isAllowed (fromRight : Bool) : Direction → Bool
  | left => !fromRight
  | right | arabic | arabicNumber => fromRight
  | number | mark | neutral => true

/-- A direction that the last character of a label may have, marks apart. -/
def Direction.mayEnd (fromRight : Bool) : Direction → Bool
  | left => !fromRight
  | right | arabic | arabicNumber => fromRight
  | number => true
  | mark | neutral => false

/-- The fault of the first direction that does not fit; `numeral` is the kind of numerals before. -/
def fittingFault? (fromRight : Bool) (position : Nat) (numeral : Option Direction) :
    List Direction → Option LabelFault
  | [] => none
  | d :: rest =>
    if !d.isAllowed fromRight then some (.direction position fromRight)
    else if fromRight && (d == .number || d == .arabicNumber) then
      if numeral.isNone || numeral == some d then
        fittingFault? fromRight (position + 1) (some d) rest
      else some .mixedNumerals
    else fittingFault? fromRight (position + 1) numeral rest

/-- The first fault of direction in a label. -/
def directionFault? (label : List Char) : Option LabelFault :=
  let ds := label.map directionOf
  if !ds.any Direction.isFromRight then none
  else
    let first := ds.head?.getD .neutral
    if first != .left && first != .right && first != .arabic then
      some (.firstDirection (String.ofList label))
    else
      let fromRight := first != .left
      match fittingFault? fromRight 1 none ds with
      | some f => some f
      | none =>
        let ending := (ds.reverse.dropWhile (· == .mark)).head?.getD .neutral
        if ending.mayEnd fromRight then none else some .lastDirection

/-- The longest label that is looked at. -/
def maxLabelLength : Nat := 254

/-- Whether a label keeps all rules. -/
def checkLabel (label : List Char) : Except LabelFault Unit :=
  if label.isEmpty then .error .empty
  else if maxLabelLength < label.length then .error .tooLong
  else if !isComposed label then .error .notComposed
  else if (label.drop 2).take 2 == ['-', '-'] then .error .hyphenPrefix
  else if label.head? == some '-' || label.getLast? == some '-' then .error .hyphenAtEnd
  else if (label.head?.map isMark).getD false then .error .leadingMark
  else
    match (characterFault? [] label).or (directionFault? label) with
    | some f => .error f
    | none => .ok ()

end Assay.Web.Domain
