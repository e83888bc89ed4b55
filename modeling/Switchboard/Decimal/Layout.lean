import Switchboard.Decimal.Shortest

/-!
# Writing numbers in decimal

How a binary number is written once its shortest digits are known: which exponents are written in
positional notation, whether a whole number shows a fraction, and what an exponent looks like. Each
way of writing is one `Layout`.
-/

namespace Switchboard.Decimal

structure Layout where
  /-- The least and greatest power of ten of the first digit that is written positionally. -/
  positional : Option (Int × Int)
  /-- Whether a whole number written positionally ends in a point and a zero. -/
  wholeFraction : Bool
  /-- The least number of digits of an exponent. -/
  exponentWidth : Nat

/-- A 64-bit number in JSON text. -/
def Layout.jsonDouble : Layout := ⟨some (-5, 15), true, 2⟩

/-- A 32-bit number in JSON text. -/
def Layout.jsonSingle : Layout := ⟨some (-6, 12), true, 2⟩

/-- A number in running text: always positional, whole numbers without a point. -/
def Layout.plain : Layout := ⟨none, false, 0⟩

def Layout.isPositional (l : Layout) (exponent : Int) : Bool :=
  match l.positional with
  | none => true
  | some (least, greatest) => least ≤ exponent && exponent ≤ greatest

private def digitChars (ds : List Nat) : List Char := ds.map Nat.digitChar

private def zeros (n : Nat) : List Char := List.replicate n '0'

def Layout.positionalChars (l : Layout) (d : Digits) : List Char :=
  if d.exponent < 0 then
    '0' :: '.' :: (zeros (-d.exponent - 1).toNat ++ digitChars d.digits)
  else
    let whole := d.exponent.toNat + 1
    let int := digitChars (d.digits.take whole) ++ zeros (whole - d.digits.length)
    match d.digits.drop whole with
    | [] => if l.wholeFraction then int ++ ['.', '0'] else int
    | fraction => int ++ '.' :: digitChars fraction

def Layout.scientificChars (l : Layout) (d : Digits) : List Char :=
  let mantissa := match d.digits with
    | [] => ['0']
    | [first] => digitChars [first]
    | first :: rest => digitChars [first] ++ '.' :: digitChars rest
  let exponent := Nat.toDigits 10 d.exponent.natAbs
  mantissa ++ 'e' :: (if d.exponent < 0 then '-' else '+') ::
    (zeros (l.exponentWidth - exponent.length) ++ exponent)

def Layout.chars (l : Layout) (d : Digits) : List Char :=
  if l.isPositional d.exponent then l.positionalChars d else l.scientificChars d

/-- The number encoded by the sign `negative` and the other bits `bits`, which are finite. -/
def Layout.write (l : Layout) (f : Format) (negative : Bool) (bits : Nat) : List Char :=
  let unsigned := match f.binary? bits with
    | none => if l.wholeFraction then ['0', '.', '0'] else ['0']
    | some b => l.chars b.shortest
  if negative then '-' :: unsigned else unsigned

def Layout.writeDouble (l : Layout) (x : Float) : List Char :=
  let bits := x.toBits.toNat
  l.write .double (Nat.pow 2 63 ≤ bits) (bits % Nat.pow 2 63)

def Layout.writeSingle (l : Layout) (x : Float32) : List Char :=
  let bits := x.toBits.toNat
  l.write .single (Nat.pow 2 31 ≤ bits) (bits % Nat.pow 2 31)

/-- A number in running text, infinities and the number that is none included. -/
def plainText (x : Float) : String :=
  if x.isNaN then "NaN"
  else if x.isInf then (if 0 < x then "inf" else "-inf")
  else String.ofList (Layout.plain.writeDouble x)

end Switchboard.Decimal
