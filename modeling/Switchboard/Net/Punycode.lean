/-!
# Punycode

How a label of any characters is written in ASCII: first the characters of ASCII that it has, then,
after a hyphen, numbers that tell where which other character goes in, from the least character to
the greatest. The digits of a number mean more or less by how great the numbers before it were.
-/

namespace Switchboard.Net.Punycode

def base : Nat := 36

/-- Numbers have 32 bits. -/
def bounded? (n : Nat) : Option Nat := if n < Nat.pow 2 32 then some n else none

def digit? (c : Char) : Option Nat :=
  if 'a' ≤ c && c ≤ 'z' then some (c.toNat - 'a'.toNat)
  else if 'A' ≤ c && c ≤ 'Z' then some (c.toNat - 'A'.toNat)
  else if c.isDigit then some (c.toNat - '0'.toNat + 26)
  else none

/-- The least digit at a place that is not the last of its number. -/
def threshold (bias place : Nat) : Nat :=
  if place ≤ bias then 1 else if bias + 26 ≤ place then 26 else place - bias

/-- The sum of `sum` and the number that a text starts with, and what follows it. -/
def addNumber (bias place weight sum : Nat) : List Char → Option (Nat × List Char)
  | [] => none
  | c :: cs => do
    let digit ← digit? c
    let sum ← bounded? (sum + digit * weight)
    let least := threshold bias place
    if digit < least then some (sum, cs)
    else addNumber bias (place + base) (← bounded? (weight * (base - least))) sum cs

/-- The bias for numbers of about this size, in steps of `base`. -/
def biasOf (bias delta : Nat) : Nat :=
  if h : 455 < delta then biasOf (bias + base) (delta / 35)
  else bias + base * delta / (delta + 38)
termination_by delta
decreasing_by omega

/-- The bias after a number, the first or a later one, that made a label this long. -/
def adapted (isFirst : Bool) (delta length : Nat) : Nat :=
  let delta := delta / if isFirst then 700 else 2
  biasOf 0 (delta + delta / length)

/-- A label with the characters that a text tells put in, from a place on and a character on. The
text tells at most `fuel` of them. -/
def insertAll : Nat → List Char → Nat → Nat → Nat → List Char → Option (List Char)
  | _, label, _, _, _, [] => some label
  | 0, _, _, _, _, _ => none
  | fuel + 1, label, bias, start, code, cs => do
    let (sum, rest) ← addNumber bias base 1 start cs
    let length := label.length + 1
    let code ← bounded? (code + sum / length)
    let place := sum % length
    if code.isValidChar then
      insertAll fuel (label.take place ++ Char.ofNat code :: label.drop place)
        (adapted (start == 0) (sum - start) length) (place + 1) code rest
    else none

/-- What a text of ASCII stands for: nothing, if it is not as numbers are written. -/
def decode? (cs : List Char) : Option (List Char) :=
  let numbers := (cs.reverse.takeWhile (· != '-')).reverse
  let ascii := cs.take (cs.length - numbers.length - 1)
  if cs.contains '-' && ascii.isEmpty then none
  else insertAll cs.length ascii 72 0 128 numbers

end Switchboard.Net.Punycode
