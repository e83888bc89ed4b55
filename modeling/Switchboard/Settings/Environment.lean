import Switchboard.Settings.Value
import Switchboard.Text.Uppercase

/-!
# Settings from the environment

Which setting a variable stands for: its name, whatever its case, begins with a mark of its own, and
two low lines lead into a table, and a number in brackets into an array. Of several variables for
one setting the last by name counts.
-/

namespace Switchboard

namespace Environment

/-- What the names of variables begin with. -/
def mark : String := "MODELGATE"

/-- The variable for a setting whose name has points in it. -/
def variableOf (field : String) : String :=
  mark ++ "_" ++ Text.upper
    (String.ofList (Text.replaceAll ['.'] ['_', '_'] field.toList))

/-- A name in lower case. Beyond ASCII only the sign of the Kelvin becomes a character that names in
a path have, so the others may be left as they are. -/
def lower (name : String) : String :=
  name.map fun c => if c == '\u212a' then 'k' else c.toLower

/-- A step on the way to a setting: to what a table has under a name, or to what stands at a place
in an array, where places below nought count from the end. -/
inductive Step where
  | name (s : String)
  | place (i : Int)
deriving DecidableEq, Repr

/-- A character of a name in a path. -/
def isNameChar (c : Char) : Bool := c.isAlphanum || c == '_' || c == '-' || c == ' '

/-- The name that a path begins with, and what follows it. -/
def scanName (path : List Char) : Option (Step × List Char) :=
  let name := path.takeWhile isNameChar
  if name.isEmpty then none else some (.name (String.ofList name), path.drop name.length)

def skipGap (path : List Char) : List Char := path.dropWhile fun c => c == ' ' || c == '\t'

/-- The place that stands after an opening bracket, and what follows the closing one. -/
def scanPlace (path : List Char) : Option (Step × List Char) := do
  let path := skipGap path
  let sign := if path.head? = some '-' then ['-'] else []
  let digits := (path.drop sign.length).takeWhile Char.isDigit
  let place ← SettingValue.whole? (sign ++ digits)
  match skipGap (path.drop (sign.length + digits.length)) with
  | ']' :: rest => some (.place place, rest)
  | _ => none

/-- The steps of what is left of a path, at most `fuel` of them. -/
def scanSteps : Nat → List Char → Option (List Step)
  | _, [] => some []
  | fuel + 1, '.' :: path => do
    let (step, rest) ← scanName path
    return step :: (← scanSteps fuel rest)
  | fuel + 1, '[' :: path => do
    let (step, rest) ← scanPlace path
    return step :: (← scanSteps fuel rest)
  | _, _ => none

/-- The steps along a path; one that is not made of names and places is a single name. -/
def steps (path : List Char) : List Step :=
  (scanSteps (path.length + 1) ('.' :: path)).getD [.name (String.ofList path)]

/-- The path that a variable stands for. -/
def pathOf? (name : String) : Option (List Step) := do
  let rest ← Text.after? (mark.toLower ++ "_") (lower name)
  return steps (Text.replaceAll ['_', '_'] ['.'] rest.toList)

/-- Which of `length` items a place is, if it is none before the first. -/
def position? (length : Nat) (place : Int) : Option Nat :=
  let i := if place < 0 then length + place else place
  if i < 0 then none else some i.toNat

/-- What is stored, with a value at the end of a path. What stands in the way of a table or an array
gives way to it, and an array becomes as long as it has to be; none if a place is before the first
item. -/
def insertAt (value : SettingValue) : List Step → SettingValue → Option SettingValue
  | [], _ => some value
  | .name name :: rest, stored => do
    let entries := stored.table?.getD []
    let inner ← insertAt value rest ((Members.lookup name entries).getD .nil)
    return .table (Members.insert name inner entries)
  | .place place :: rest, stored => do
    let items := stored.array?.getD []
    let i ← position? items.length place
    let inner ← insertAt value rest (items[i]?.getD .nil)
    return .array (items.take i ++ List.replicate (i - items.length) .nil ++ inner ::
      items.drop (i + 1))

/-- What variables store from `stored` on. -/
def store (stored : SettingValue) : List (String × String) → Option SettingValue
  | [] => some stored
  | (name, text) :: rest =>
    match pathOf? name with
    | some path => do store (← insertAt (.ofText text) path stored) rest
    | none => store stored rest

/-- All settings that variables make; none if one of them leads before an array. -/
def settings? (assigned : List (String × String)) : Option (List (String × SettingValue)) := do
  (← store (.table []) (Members.ofList assigned)).table?

end Environment

end Switchboard
