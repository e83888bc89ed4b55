/-!
# The shortest decimal of a binary number

A finite binary number is read as `m * 2 ^ q`. Among the decimals that round to it, `shortest` takes
one with the fewest digits and, of those, the nearest. All of it is exact arithmetic on naturals:
the reals that round to the number form an interval, which contains its ends when `m` is even, and a
point of a decimal grid lies in the interval only if one of the two grid points next to the number
does.
-/

namespace Switchboard.Decimal

/-- The digits of a decimal, most significant first, and the power of ten of the first. -/
structure Digits where
  digits : List Nat
  exponent : Int
deriving DecidableEq, Repr

/-- A positive binary number `m * 2 ^ q`. `narrow` says that the gap below it is half the gap above,
as it is at the least significand of a binade. -/
structure Binary where
  m : Nat
  q : Int
  narrow : Bool
deriving DecidableEq, Repr

/-- A binary format: how many bits its significand stores and how wide its exponent is. -/
structure Format where
  fractionBits : Nat
  exponentBits : Nat

def Format.double : Format := ⟨52, 11⟩

def Format.single : Format := ⟨23, 8⟩

/-- The positive number whose encoding without the sign is `bits`; zero has none. -/
def Format.binary? (f : Format) (bits : Nat) : Option Binary :=
  let fraction := bits % Nat.pow 2 f.fractionBits
  let exponent := bits / Nat.pow 2 f.fractionBits % Nat.pow 2 f.exponentBits
  let bias : Int := Int.pow 2 (f.exponentBits - 1) - 1 + f.fractionBits
  if exponent == 0 then
    if fraction == 0 then none else some ⟨fraction, 1 - bias, false⟩
  else
    some ⟨Nat.pow 2 f.fractionBits + fraction, exponent - bias, fraction == 0 && exponent != 1⟩

/-- The number, the ends of its interval and its unit, as numerators over one denominator. -/
structure Interval where
  value : Nat
  low : Nat
  high : Nat
  denominator : Nat
  closed : Bool

def Binary.interval (b : Binary) : Interval :=
  let up := Nat.pow 2 b.q.toNat
  { value := 4 * b.m * up
    low := (4 * b.m - if b.narrow then 1 else 2) * up
    high := (4 * b.m + 2) * up
    denominator := 4 * Nat.pow 2 (-b.q).toNat
    closed := b.m % 2 == 0 }

/-- Whether `d * 10 ^ e` rounds to the number. -/
def Interval.holds (i : Interval) (d : Nat) (e : Int) : Bool :=
  let point := d * Nat.pow 10 e.toNat * i.denominator
  let scale := Nat.pow 10 (-e).toNat
  if i.closed then i.low * scale ≤ point && point ≤ i.high * scale
  else i.low * scale < point && point < i.high * scale

/-- The power of ten of the number's first digit: `10 ^ k ≤ value < 10 ^ (k + 1)`. -/
def Interval.magnitude (i : Interval) : Int :=
  let guess : Int := ((i.value.log2 : Int) - i.denominator.log2) * 30103 / 100000
  settle 4 guess
where
  /-- Whether `10 ^ k` is at most the number. -/
  reaches (k : Int) : Bool := Nat.pow 10 k.toNat * i.denominator ≤ i.value * Nat.pow 10 (-k).toNat
  settle : Nat → Int → Int
    | 0, k => k
    | fuel + 1, k =>
      if !reaches k then settle fuel (k - 1)
      else if reaches (k + 1) then settle fuel (k + 1)
      else k

/-- The grid point for `10 ^ e` that rounds to the number and is nearest to it; of two equally near,
the even one. -/
def Interval.onGrid (i : Interval) (e : Int) : Option Nat :=
  let numerator := i.value * Nat.pow 10 (-e).toNat
  let unit := i.denominator * Nat.pow 10 e.toNat
  let below := numerator / unit
  let left := numerator - below * unit
  match i.holds below e, i.holds (below + 1) e with
  | true, true =>
    if 2 * left < unit then some below
    else if unit < 2 * left then some (below + 1)
    else if below % 2 == 0 then some below else some (below + 1)
  | true, false => some below
  | false, true => some (below + 1)
  | false, false => none

/-- The first grid, from coarse to fine, with a point that rounds to the number. -/
def Interval.search (i : Interval) : Nat → Int → Nat × Int
  | 0, e => (i.value * Nat.pow 10 (-e).toNat / (i.denominator * Nat.pow 10 e.toNat), e)
  | fuel + 1, e =>
    match i.onGrid e with
    | some d => (d, e)
    | none => i.search fuel (e - 1)

/-- The decimal digits of `n`, most significant first. -/
def digitsOf (n : Nat) : List Nat := (Nat.toDigits 10 n).map fun c => c.toNat - '0'.toNat

def dropZeros (ds : List Nat) : List Nat := (ds.reverse.dropWhile (· == 0)).reverse

def Binary.shortest (b : Binary) : Digits :=
  let i := b.interval
  let (d, e) := i.search 20 i.magnitude
  let ds := digitsOf d
  ⟨dropZeros ds, e + ds.length - 1⟩

end Switchboard.Decimal
