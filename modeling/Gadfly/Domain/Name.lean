/-
  Gadfly.Domain.Name

  Domains in ASCII.

  `ascii?` maps a domain (`mapped?`), cuts it into labels at the dots, and checks every label
  beyond ASCII and writes it with the lead `xn--` (`writeLabel`). A label that has the lead
  already is read, checked, and left as it is (`readLabel?`). ASCII labels are not looked at any
  further, but no domain holds a character that has a meaning in an address (`isForbidden`).

  Main definitions: `Domain.isAscii`, `Domain.readLabel?`, `Domain.writeLabel`, `Domain.ascii?`.
-/

import Gadfly.Domain.Label

namespace Gadfly.Domain

open Gadfly.Text

/-- Whether a text is in ASCII. -/
def isAscii (text : List Char) : Bool :=
  text.all (·.toNat < 0x80)

/-- The characters of ASCII that no domain holds. -/
def isForbidden (c : Char) : Bool :=
  c.toNat ≤ 0x20 || c.toNat = 0x7F || "%#/:<>?@[\\]^|".toList.contains c

/-- The most characters of a label beyond ASCII. -/
def maxLabel : Nat := 1000

/-- A label as it is meant. One with the lead must be beyond ASCII when it is read. -/
def readLabel? (label : List Char) : Option (List Char) :=
  if !isAscii label then
    if isLabel label && label.length ≤ maxLabel then some label else none
  else
    match stripLead codedLead label with
    | none => some label
    | some code => do
      let read ← Punycode.decode? code
      if isAscii read || !isLabel read then none else some read

/-- A label in ASCII. -/
def writeLabel (label : List Char) : List Char :=
  if isAscii label then label else codedLead ++ Punycode.encode label

/-- Whether the labels of a domain go together. -/
def directionsFit (labels : List (List Char)) : Bool :=
  let directions := labels.map (·.map direction)
  !directions.any turnsRight || directions.all keepsDirection

/-- Puts labels together with dots. -/
def joinLabels (labels : List (List Char)) : List Char :=
  ['.'].intercalate labels

/-- A domain in ASCII, if it is one. -/
def ascii? (text : List Char) : Option (List Char) := do
  let labels := cutWhere (· = '.') (← mapped? text)
  let read ← labels.mapM readLabel?
  let written := joinLabels (labels.map writeLabel)
  if directionsFit read && !written.any isForbidden then some written else none

end Gadfly.Domain
