import Assay.Text.Numeral

/-!
# Network addresses

* `isFourNumbers`: four numbers below 256 with dots between them;
* `isEightGroups`: eight groups of hexadecimal digits with colons between them, where one run of
  zeros may be left out, four numbers may stand for the last two groups, and a zone may follow.
-/

namespace Assay.Web.Network

/-- A number below 256 without leading zeros. -/
def isByte (s : List Char) : Bool :=
  !s.isEmpty && s.length ≤ 3 && s.all Char.isDigit && (s == ['0'] || s.head? != some '0') &&
    Text.ofDigits (s.map fun c => c.toNat - '0'.toNat) < 256

/-- Four numbers below 256 with dots between them. -/
def isFourNumbers (s : List Char) : Bool :=
  let parts := s.splitOn '.'
  parts.length == 4 && parts.all isByte

/-- One to four hexadecimal digits. -/
def isGroup (s : List Char) : Bool :=
  !s.isEmpty && s.length ≤ 4 && s.all fun c => (Text.hexValue? c).isSome

/-- Groups of which those before the last are no four numbers. -/
def groups (parts : List (List Char)) : Option (List (List Char)) :=
  match parts.getLast? with
  | some last =>
    if last.contains '.' then
      if isFourNumbers last then some (parts.dropLast ++ [['0'], ['0']]) else none
    else some parts
  | none => some parts

/-- Whether the groups on one side of a gap are groups; the side may be empty, which leaves a colon
of its own. -/
def isSide (parts : List (List Char)) : Bool :=
  parts == [[]] || parts.all isGroup

/-- The number of groups on one side of a gap. -/
def sideLength (parts : List (List Char)) : Nat :=
  if parts == [[]] then 0 else parts.length

/-- Eight groups, or fewer around one gap. -/
def areGroups (parts : List (List Char)) : Bool :=
  let inner := (parts.drop 1).dropLast
  match inner.findIdx? List.isEmpty with
  | none => parts.length == 8 && parts.all isGroup
  | some i =>
    let before := parts.take (i + 1)
    let after := parts.drop (i + 2)
    (inner.filter List.isEmpty).length == 1 && isSide before && isSide after &&
      sideLength before + sideLength after ≤ 7

/-- A zone behind a percent sign, if there is one. -/
def isZone : List Char → Bool
  | [] => true
  | _ :: zone => !zone.isEmpty && !zone.contains '%'

/-- Eight groups of hexadecimal digits, and perhaps a zone. -/
def isEightGroups (s : List Char) : Bool :=
  let parts := (s.takeWhile (· != '%')).splitOn ':'
  !s.contains '/' && isZone (s.dropWhile (· != '%')) && 3 ≤ parts.length &&
    match groups parts with
    | some parts => parts.length ≤ 9 && areGroups parts
    | none => false

end Assay.Web.Network
