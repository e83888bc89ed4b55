import Switchboard.Decimal.Layout
import Switchboard.Members
import Switchboard.Text.Blank
import Switchboard.Text.Cut

/-!
# Values of settings

The text of a variable is stored as the simplest thing it can be: true or false, an integer of 64
bits, a double, or else the text itself. Settings of another type take what is stored as far as it
goes. Tables and arrays hold the values of variables whose names lead into them.
-/

namespace Switchboard

inductive SettingValue where
  | flag (b : Bool)
  | whole (n : Int)
  | real (x : Float)
  | text (s : String)
  | table (entries : List (String × SettingValue))
  | array (items : List SettingValue)
  /-- What stands at the places of an array that nothing was stored at. -/
  | nil

namespace SettingValue

instance : Inhabited SettingValue := ⟨table []⟩

/-- Digits in base ten as a number, if there are any. -/
def digits? (cs : List Char) : Option Nat :=
  if !cs.isEmpty && cs.all Char.isDigit then
    some (cs.foldl (fun n c => n * 10 + (c.toNat - '0'.toNat)) 0)
  else none

/-- Whether a text is negative, and the text without its sign. -/
def splitSign : List Char → Bool × List Char
  | '-' :: cs => (true, cs)
  | '+' :: cs => (false, cs)
  | cs => (false, cs)

/-- An integer of 64 bits. -/
def whole? (cs : List Char) : Option Int := do
  let (isNegative, cs) := splitSign cs
  let n ← digits? cs
  let n : Int := if isNegative then -n else n
  if -Int.pow 2 63 ≤ n ∧ n < Int.pow 2 63 then some n else none

/-- The double nearest to `n` times ten to the power `e`. -/
def scientific (n : Nat) (e : Int) : Float :=
  let magnitude := e + (Nat.toDigits 10 n).length
  if n = 0 ∨ magnitude < -400 then 0
  else if 400 < magnitude then 1 / 0
  else Float.ofScientific n (e < 0) e.natAbs

/-- The exponent that follows a mantissa. -/
def exponent? : List Char → Option Int
  | [] => some 0
  | c :: cs =>
    if c == 'e' || c == 'E' then do
      let (isNegative, cs) := splitSign cs
      let n ← digits? cs
      return if isNegative then -n else n
    else none

/-- A number with a point or an exponent. -/
def decimal? (cs : List Char) : Option Float := do
  let whole := cs.takeWhile Char.isDigit
  let rest := cs.drop whole.length
  let fraction := if rest.head? = some '.' then rest.tail.takeWhile Char.isDigit else []
  let rest := if rest.head? = some '.' then rest.tail.drop fraction.length else rest
  let n ← digits? (whole ++ fraction)
  return scientific n ((← exponent? rest) - fraction.length)

/-- A double, which may be infinite or no number. -/
def real? (cs : List Char) : Option Float := do
  let (isNegative, cs) := splitSign cs
  let x ← match String.ofList (cs.map Char.toLower) with
    | "inf" | "infinity" => some (1 / 0)
    | "nan" => some (0 / 0)
    | _ => decimal? cs
  return if isNegative then -x else x

/-- What the text of a variable is stored as. -/
def ofText (s : String) : SettingValue :=
  match s.toLower with
  | "true" => flag true
  | "false" => flag false
  | _ =>
    match whole? s.toList, real? s.toList with
    | some n, _ => whole n
    | none, some x => real x
    | none, none => text s

/-- The words that are as good as true or false. -/
def flagOfWord? (s : String) : Option Bool :=
  match s.toLower with
  | "1" | "true" | "on" | "yes" => some true
  | "0" | "false" | "off" | "no" => some false
  | _ => none

def flag? : SettingValue → Option Bool
  | flag b => some b
  | whole n => some (n != 0)
  | real x => some (x != 0)
  | text s => flagOfWord? s
  | table _ | array _ | nil => none

/-- A non-negative integer below `bound`. A double is rounded, a half away from zero, and brought
into the range of 64 bits. -/
def nat? (bound : Nat) (v : SettingValue) : Option Nat := do
  let n ← match v with
    | flag b => some b.toNat
    | whole n => if n < 0 then none else some n.toNat
    | real x => some x.round.toUInt64.toNat
    | text s => (flagOfWord? s).map Bool.toNat
    | table _ | array _ | nil => none
  if n < bound then some n else none

def single? : SettingValue → Option Float32
  | flag b => some b.toNat.toFloat32
  | whole n => some (if n < 0 then -n.natAbs.toFloat else n.natAbs.toFloat).toFloat32
  | real x => some x.toFloat32
  | text s => (flagOfWord? s).map fun b => b.toNat.toFloat32
  | table _ | array _ | nil => none

/-- The text that a stored value is written as, which need not be the text it was read from. -/
def string? : SettingValue → Option String
  | flag b => some (if b then "true" else "false")
  | whole n => some (toString n)
  | real x => some (Decimal.plainText x)
  | text s => some s
  | table _ | array _ | nil => none

/-- The text of a value that was stored as text. -/
def text? : SettingValue → Option String
  | text s => some s
  | _ => none

/-- The texts of an array as they are, or the items between the commas of a text, trimmed, without
those that are blank. -/
def list? : SettingValue → Option (List String)
  | text s =>
    let items := (Text.splitOn ',' s.toList).map fun item => Text.trim (String.ofList item)
    some (items.filter fun item => !item.isEmpty)
  | array items => items.mapM text?
  | _ => none

/-- The word that selects one of several things: a text, or the one key of a table. -/
def word? : SettingValue → Option String
  | text s => some s
  | table [(key, _)] => some key
  | _ => none

def table? : SettingValue → Option (List (String × SettingValue))
  | table entries => some entries
  | _ => none

def array? : SettingValue → Option (List SettingValue)
  | array items => some items
  | _ => none

/-- The entries of a record: a table, or an array of what its fields say in their order. -/
def record? (fields : List String) : SettingValue → Option (List (String × SettingValue))
  | table entries => some entries
  | array items => some (fields.zip items)
  | _ => none

end SettingValue

end Switchboard
