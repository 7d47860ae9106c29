import Culprit.Pattern.Basic
import Culprit.Host.Url.Escape

/-!
# Addresses

A host may be given by its address instead of a name: four numbers with dots between them, or eight
groups of hexadecimal digits with colons between them, where one run of groups of zeros may be left
out and the last two groups may be written as four numbers. A zone may follow behind a percent
sign.
-/

namespace Culprit.Url

def splitAt (mark : Char) : Text → List Text
  | [] => [[]]
  | c :: rest =>
    if c == mark then [] :: splitAt mark rest
    else
      match splitAt mark rest with
      | first :: others => (c :: first) :: others
      | [] => [[c]]

def isOctet (text : Text) : Bool :=
  !text.isEmpty && text.all Char.isDigit && text.length ≤ 3
    && (text == ['0'] || text.head? != some '0')
    && text.foldl (fun value digit => value * 10 + (digit.toNat - '0'.toNat)) 0 ≤ 255

def isShortAddress (text : Text) : Bool :=
  let octets := splitAt '.' text
  octets.length == 4 && octets.all isOctet

/-- What looks like an address of four numbers: four runs of digits with one character between
each. -/
def shortAddressShape : Pattern :=
  let digits := Pattern.atLeastOnce (.one (.among [('0', '9')] false))
  let mark := Pattern.one .any
  Pattern.inOrder [digits, mark, digits, mark, digits, mark, digits]

def isGroup (text : Text) : Bool := !text.isEmpty && text.length ≤ 4 && text.all isHexDigit

/-- The groups of an address with the four numbers at its end, if there are any, written as two
groups. -/
def longGroups? (address : Text) : Option (List Text) :=
  let groups := splitAt ':' address
  let last := groups.getLastD []
  if groups.length < 3 then none
  else if last.contains '.' then
    if isShortAddress last then some (groups.dropLast ++ [['0'], ['0']]) else none
  else some groups

def groupCount : Nat := 8

/-- Whether the pieces between the colons are the groups of an address. An empty piece inside stands
for the groups that are left out; the first and the last piece are empty only beside it. -/
def areGroups (pieces : List Text) : Bool :=
  if groupCount + 1 < pieces.length then false
  else
    let inner := (pieces.drop 1).dropLast
    match inner.findIdx? List.isEmpty with
    | none => pieces.length == groupCount && pieces.all isGroup
    | some index =>
      let front := pieces.take (index + 1)
      let back := pieces.drop (index + 2)
      let isSide (side : List Text) : Bool := side == [[]] || side.all isGroup
      let count (side : List Text) : Nat := if side == [[]] then 0 else side.length
      isSide front && isSide back && count front + count back < groupCount

def isLongAddress (text : Text) : Bool :=
  let address := text.takeWhile (· != '%')
  let isZoneRight := match text.drop address.length with
    | [] => true
    | _ :: zone => !zone.isEmpty && !zone.contains '%'
  !text.contains '/' && isZoneRight && (longGroups? address).any areGroups

end Culprit.Url
