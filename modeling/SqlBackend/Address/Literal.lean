import SqlBackend.Numeric.Integer

/-!
# Internet addresses in brackets

A host between brackets is an address of version 6, or one of a later version in the form `v1.x`.
The predicates say which texts are such addresses; what number an address has is nobody's concern.
-/

namespace SqlBackend.Address

open SqlBackend.Text

/-- The pieces of a text between the occurrences of a separator; always one more than those. -/
def splitAt (separator : Char) : List Char → List (List Char)
  | [] => [[]]
  | c :: rest =>
    if c = separator then [] :: splitAt separator rest
    else
      match splitAt separator rest with
      | [] => [[c]]
      | piece :: pieces => (c :: piece) :: pieces

/-- One of the four numbers of a version 4 address: 0 to 255 without leading zeros. -/
def isOctet (cs : List Char) : Bool :=
  !cs.isEmpty && cs.length ≤ 3 && cs.all isAsciiDigit &&
    (cs.length == 1 || cs.head? != some '0') && ofAsciiDigits cs ≤ 255

/-- Four numbers with points between them. -/
def isIPv4 (cs : List Char) : Bool :=
  let parts := splitAt '.' cs
  parts.length == 4 && parts.all isOctet

/-- One of the eight groups of a version 6 address: up to four hexadecimal digits. -/
def isGroup (cs : List Char) : Bool :=
  !cs.isEmpty && cs.length ≤ 4 && cs.all isHexDigit

/-- Replaces a version 4 address at the end by the two groups it stands for. -/
def expandTail? (parts : List (List Char)) : Option (List (List Char)) :=
  match parts.getLast? with
  | some final =>
    if final.contains '.' then
      if isIPv4 final then some (parts.dropLast ++ [['0'], ['0']]) else none
    else some parts
  | none => none

/-- The groups on one side of a gap; an empty one may stand for the end of the address, alone. -/
def sideGroups? (side : List (List Char)) (edge : Option (List Char)) : Option (List (List Char)) :=
  if edge == some [] then (if side.length == 1 then some [] else none) else some side

/-- Eight groups, or fewer with one gap between two colons that stands for one zero group or more. -/
def groupsFit (parts : List (List Char)) : Bool :=
  let inner := parts.dropLast.drop 1
  if inner.all (!·.isEmpty) then parts.length == 8 && parts.all isGroup
  else
    let gap := (inner.takeWhile (!·.isEmpty)).length + 1
    let high := parts.take gap
    let low := parts.drop (gap + 1)
    (inner.filter (·.isEmpty)).length == 1 &&
      match sideGroups? high high.head?, sideGroups? low low.getLast? with
      | some high, some low => high.length + low.length ≤ 7 && high.all isGroup && low.all isGroup
      | _, _ => false

/-- A zone after the percent sign must not be empty and must not hold another one. -/
def zoneFits (cs : List Char) : Bool :=
  match cs.dropWhile (· != '%') with
  | [] => true
  | _ :: zone => !zone.isEmpty && !zone.contains '%'

/-- An address of version 6, perhaps with a zone. -/
def isIPv6 (cs : List Char) : Bool :=
  let parts := splitAt ':' (cs.takeWhile (· != '%'))
  zoneFits cs && 3 ≤ parts.length &&
    match expandTail? parts with
    | some parts => parts.length ≤ 9 && groupsFit parts
    | none => false

/-- An address of a later version: `v`, its number in hexadecimal, a point and something more. -/
def isFutureAddress (cs : List Char) : Bool :=
  match cs with
  | 'v' :: rest =>
    !(rest.takeWhile isHexDigit).isEmpty &&
      match rest.dropWhile isHexDigit with
      | '.' :: tail => !tail.isEmpty
      | _ => false
  | _ => false

end SqlBackend.Address
