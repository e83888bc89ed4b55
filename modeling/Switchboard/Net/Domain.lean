import Switchboard.Net.Domain.Direction
import Switchboard.Net.Domain.Joiner
import Switchboard.Net.Domain.Mapping
import Switchboard.Net.Punycode
import Switchboard.Text.Mark
import Switchboard.Text.Normal

/-!
# Domains

A domain may be written with any characters and is understood as the normal form of what they stand
for. Its labels stand between dots. A label that is written in ASCII as punycode is one that would
be understood as itself.
-/

namespace Switchboard.Net.Domain

open Text

/-- The characters of ASCII that no domain has. -/
def isForbidden (c : Char) : Bool :=
  c.toNat ≤ 0x20 || c.toNat == 0x7F ||
    ['%', '#', '/', ':', '<', '>', '?', '@', '[', '\\', ']', '^', '|'].contains c

/-- What the characters of a text stand for, in normal form. -/
def meant? (cs : List Char) : Option (List Char) :=
  match cs.mapM meaning? with
  | none => none
  | some parts =>
    let meant := normal parts.flatten
    if meant.any isForbidden then none else some meant

/-- Whether every character of a text stands for itself and the text is in normal form. -/
def isPlain (cs : List Char) : Bool := cs.all (fun c => meaning? c == some [c]) && normal cs == cs

/-- What a label that is written as punycode begins with. -/
def punycodeMark : List Char := ['x', 'n', '-', '-']

/-- How long the numbers of a label in punycode may be. -/
def maxCode : Nat := 2000

/-- How long a label may be that is not ASCII. -/
def maxLabel : Nat := 1000

/-- The characters of a label, which may be written as punycode. -/
def spelled? (label : List Char) : Option (List Char) :=
  if punycodeMark.isPrefixOf label then
    let code := label.drop punycodeMark.length
    if label.getLast? = some '-' || maxCode < code.length || !code.all isAscii then none
    else (Punycode.decode? code).filter isPlain
  else some label

/-- Whether a label may stand in a domain by itself. -/
def labelFits (label : List Char) : Bool :=
  if label.all isAscii then true
  else !label.head?.any isMark && joinersFit [] label && label.length ≤ maxLabel

/-- A domain as it is understood. -/
def understood? (cs : List Char) : Option (List Char) :=
  match meant? cs with
  | none => none
  | some meant =>
    match (splitOn '.' meant).mapM spelled? with
    | none => none
    | some labels => if labels.all labelFits && directionsFit labels then some meant else none

end Switchboard.Net.Domain
