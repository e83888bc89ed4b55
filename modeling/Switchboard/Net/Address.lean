import Switchboard.Text.Cut

/-!
# Addresses

Addresses of four octets and of eight groups, as they are written and read. In an address of groups
one run of zeros may be left out, and the last two groups may be written as four octets.
-/

namespace Switchboard.Net

/-- A decimal number of at least one digit. -/
def decimal? (cs : List Char) : Option Nat :=
  if !cs.isEmpty && cs.all Char.isDigit then
    some (cs.foldl (fun n c => n * 10 + (c.toNat - '0'.toNat)) 0)
  else none

def hexDigit? (c : Char) : Option Nat :=
  if c.isDigit then some (c.toNat - '0'.toNat)
  else if 'a' ≤ c && c ≤ 'f' then some (c.toNat - 'a'.toNat + 10)
  else if 'A' ≤ c && c ≤ 'F' then some (c.toNat - 'A'.toNat + 10)
  else none

/-- An octet, written without leading zeros. -/
def octet? (cs : List Char) : Option Nat := do
  let n ← decimal? cs
  if n ≤ 255 && (cs.length == 1 || cs.head? != some '0') then some n else none

def octets? (cs : List Char) : Option (List Nat) :=
  let pieces := Text.splitOn '.' cs
  if pieces.length = 4 then pieces.mapM octet? else none

/-- A group of one to four hexadecimal digits. -/
def group? (cs : List Char) : Option Nat :=
  if cs.isEmpty || 4 < cs.length then none
  else cs.foldlM (fun n c => (hexDigit? c).map (n * 16 + ·)) 0

/-- The groups of two octets each. -/
def pairs : List Nat → List Nat
  | a :: b :: rest => (a * 256 + b) :: pairs rest
  | _ => []

/-- Groups between colons, the last of which may be four octets where `mixed`. -/
def pieceGroups? (mixed : Bool) : List (List Char) → Option (List Nat)
  | [] => some []
  | [last] =>
    if mixed && last.contains '.' then (octets? last).map pairs else do return [← group? last]
  | piece :: rest => do
    let g ← group? piece
    return g :: (← pieceGroups? mixed rest)

def someGroups? (mixed : Bool) (cs : List Char) : Option (List Nat) :=
  if cs.isEmpty then some [] else pieceGroups? mixed (Text.splitOn ':' cs)

/-- The eight groups of an address. -/
def groups? (cs : List Char) : Option (List Nat) :=
  match Text.cutAt "::".toList cs with
  | none => do
    let gs ← someGroups? true cs
    if gs.length = 8 then some gs else none
  | some (before, after) => do
    let front ← someGroups? false before
    let back ← someGroups? true after
    if front.length + back.length ≤ 7 then
      some (front ++ List.replicate (8 - front.length - back.length) 0 ++ back)
    else none

def writeOctets (octets : List Nat) : String := ".".intercalate (octets.map toString)

def hexText (n : Nat) : String := String.ofList (Nat.toDigits 16 n)

/-- How many zeros a list starts with. -/
def zeros (gs : List Nat) : Nat := (gs.takeWhile (· == 0)).length

/-- Where the longest run of zeros starts, the first of several, and how long it is. -/
def longestZeros (position : Nat) : List Nat → Nat × Nat
  | [] => (position, 0)
  | g :: rest =>
    let here := (position, zeros (g :: rest))
    let later := longestZeros (position + 1) rest
    if here.2 < later.2 then later else here

def writeGroupList (gs : List Nat) : String := ":".intercalate (gs.map hexText)

/-- An address of groups: a run of two or more zeros is left out, and an address that embeds four
octets shows them. -/
def writeGroups (gs : List Nat) : String :=
  match gs with
  | [0, 0, 0, 0, 0, 0xFFFF, a, b] =>
    "::ffff:" ++ writeOctets [a / 256, a % 256, b / 256, b % 256]
  | gs =>
    let (start, length) := longestZeros 0 gs
    if length < 2 then writeGroupList gs
    else writeGroupList (gs.take start) ++ "::" ++ writeGroupList (gs.drop (start + length))

end Switchboard.Net
