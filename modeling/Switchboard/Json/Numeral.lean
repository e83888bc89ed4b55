import Switchboard.Json.Basic

/-!
# Numerals of JSON

A numeral is first scanned into its digits and then valued. An integer keeps its exact value as long
as it fits 64 bits, signed or unsigned; every other numeral is a double: as many leading digits as
fit 64 bits, multiplied or divided by a power of ten. One that overflows has no value.
-/

namespace Switchboard.Json

structure Numeral where
  negative : Bool
  whole : List Nat
  fraction : Option (List Nat)
  /-- Whether the exponent is negative, and its digits. -/
  exponent : Option (Bool × List Nat)

def digit? (c : Char) : Option Nat :=
  if c.isDigit then some (c.toNat - '0'.toNat) else none

/-- The digits a text starts with, and the rest. -/
def takeDigits (cs : List Char) : List Nat × List Char :=
  let (digits, rest) := cs.span Char.isDigit
  (digits.map fun c => c.toNat - '0'.toNat, rest)

/-- The integer part: no digit follows a leading zero. -/
def scanWhole (cs : List Char) : Option (List Nat × List Char) :=
  match takeDigits cs with
  | ([], _) => none
  | (0 :: _ :: _, _) => none
  | (digits, rest) => some (digits, rest)

def scanFraction : List Char → Option (Option (List Nat) × List Char)
  | '.' :: cs =>
    match takeDigits cs with
    | ([], _) => none
    | (digits, rest) => some (some digits, rest)
  | cs => some (none, cs)

def scanExponent : List Char → Option (Option (Bool × List Nat) × List Char)
  | c :: cs =>
    if c == 'e' || c == 'E' then
      let (negative, cs) := match cs with
        | '-' :: cs => (true, cs)
        | '+' :: cs => (false, cs)
        | cs => (false, cs)
      match takeDigits cs with
      | ([], _) => none
      | (digits, rest) => some (some (negative, digits), rest)
    else some (none, c :: cs)
  | [] => some (none, [])

/-- The numeral a text starts with, and the rest. -/
def scanNumeral (cs : List Char) : Option (Numeral × List Char) := do
  let (negative, cs) := match cs with
    | '-' :: cs => (true, cs)
    | cs => (false, cs)
  let (whole, cs) ← scanWhole cs
  let (fraction, cs) ← scanFraction cs
  let (exponent, cs) ← scanExponent cs
  return (⟨negative, whole, fraction, exponent⟩, cs)

/-- The greatest significand. -/
def maxSignificand : Nat := Nat.pow 2 64 - 1

/-- Digits taken into the significand while it fits, and how many were left out. -/
def accumulate (significand : Nat) : List Nat → Nat × Nat
  | [] => (significand, 0)
  | d :: ds =>
    if significand * 10 + d ≤ maxSignificand then accumulate (significand * 10 + d) ds
    else (significand, ds.length + 1)

def powerOfTen (n : Nat) : Float := Float.ofScientific 1 false n

/-- `x` divided by `10 ^ n`, by steps of at most `10 ^ 308`. -/
def shrink (x : Float) (n : Nat) : Float :=
  if n ≤ 308 then x / powerOfTen n
  else if x == 0 then x
  else shrink (x / powerOfTen 308) (n - 308)
termination_by n

/-- `significand * 10 ^ exponent`, unless it overflows. -/
def scaled (significand : Nat) (exponent : Int) : Option Float :=
  let x := significand.toUInt64.toFloat
  if exponent < 0 then some (shrink x (-exponent).toNat)
  else if x == 0 then some x
  else if 308 < exponent then none
  else
    let y := x * powerOfTen exponent.toNat
    if y.isInf then none else some y

def ofDigits (ds : List Nat) : Nat := ds.foldl (fun n d => n * 10 + d) 0

/-- The greatest exponent that is looked at. -/
def maxExponent : Nat := Nat.pow 2 31 - 1

/-- The magnitude of a numeral as a double. -/
def Numeral.magnitude (n : Numeral) : Option Float :=
  let (significand, left) := accumulate 0 n.whole
  let fraction := n.fraction.getD []
  let (significand, leftFraction) := accumulate significand fraction
  let shift : Int := (left : Int) - (fraction.length - leftFraction : Nat)
  match n.exponent with
  | none => scaled significand shift
  | some (negative, digits) =>
    let e := ofDigits digits
    if maxExponent < e then
      if significand == 0 || negative then some 0 else none
    else scaled significand (if negative then shift - e else shift + e)

/-- What a numeral denotes; one that overflows denotes nothing. -/
def Numeral.value (n : Numeral) : Option Number :=
  let whole := ofDigits n.whole
  let isWhole := n.fraction.isNone && n.exponent.isNone
  if isWhole && !n.negative && whole ≤ maxSignificand then some (.whole whole)
  else if isWhole && n.negative && 0 < whole && whole ≤ Nat.pow 2 63 then some (.whole (-whole))
  else n.magnitude.map fun x => .real (if n.negative then -x else x)

end Switchboard.Json
