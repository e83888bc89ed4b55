import Switchboard.Text.Cut

/-!
# Tables of characters

What the standard of characters says of them is kept as text and read into a table once. A word of
the text is a run of characters by their numbers in base 16, the first and the last, every `step`-th
of them where a step is given: `100-12e:2`. A run without a first goes on where the run before it
ended. What follows tells what stands for the characters of a run: `>` the images of its first, of
which those of the others are as far away, or `=` the same for all of it. Words are in the order of
their characters.

All tables are those of version 17 of the standard.
-/

namespace Switchboard.Text

structure CodeRun where
  first : Nat
  last : Nat
  step : Nat
  images : List Nat
  /-- Whether the images go along with the characters. -/
  moves : Bool
deriving DecidableEq, Repr

namespace CodeRun

/-- What stands for the character `n` of a run. -/
def imagesOf (r : CodeRun) (n : Nat) : List Nat :=
  if r.moves then r.images.map (· + (n - r.first)) else r.images

def hexNumber (digits : List Char) : Nat :=
  digits.foldl (fun n c => n * 16 + if c.isDigit then c.toNat - '0'.toNat
    else c.toNat - 'a'.toNat + 10) 0

/-- A word as what stands before a mark, and what stands after it if the mark is there. -/
def halves (mark : Char) (word : List Char) : List Char × Option (List Char) :=
  match cutAt [mark] word with
  | some (before, after) => (before, some after)
  | none => (word, none)

/-- The run of a word, where the run before it ended at `previous`. -/
def ofWord (previous : Nat) (word : List Char) : CodeRun :=
  let (word, moving) := halves '>' word
  let (word, fixed) := halves '=' word
  let (first, rest) := halves '-' word
  let first := if first.isEmpty then previous + 1 else hexNumber first
  let (last, step) := halves ':' (rest.getD [])
  ⟨first, if rest.isSome then hexNumber last else first, (step.map hexNumber).getD 1,
    (((moving <|> fixed).map (splitOn '.')).getD []).map hexNumber, moving.isSome⟩

end CodeRun

abbrev CodeTable := Array CodeRun

namespace CodeTable

/-- The runs of words that follow a run that ended at `previous`. -/
def ofWords (previous : Nat) : List (List Char) → List CodeRun
  | [] => []
  | word :: rest =>
    let run := CodeRun.ofWord previous word
    run :: ofWords run.last rest

def ofText (text : String) : CodeTable :=
  let words := splitOn ' ' (text.toList.map fun c => if c == '\n' then ' ' else c)
  (ofWords 0 (words.filter fun word => !word.isEmpty)).toArray

/-- The run with the character `n` among the runs from `low` to before `high`. -/
def search (t : CodeTable) (n low high : Nat) : Option CodeRun :=
  if low < high then
    let middle := (low + high) / 2
    match t[middle]? with
    | none => none
    | some r =>
      if n < r.first then search t n low middle
      else if r.last < n then search t n (middle + 1) high
      else if (n - r.first) % r.step = 0 then some r
      else none
  else none
termination_by high - low

/-- What stands for a character, if the table has it. -/
def images? (t : CodeTable) (c : Char) : Option (List Char) :=
  (search t c.toNat 0 t.size).map fun r => (r.imagesOf c.toNat).map Char.ofNat

def contains (t : CodeTable) (c : Char) : Bool := (search t c.toNat 0 t.size).isSome

/-- The number that a table gives to a character, nought for those that it does not have. -/
def number (t : CodeTable) (c : Char) : Nat :=
  match search t c.toNat 0 t.size with
  | some r => (r.imagesOf c.toNat).headD 0
  | none => 0

end CodeTable

/-- The characters of ASCII, of which no table has to be asked. -/
def isAscii (c : Char) : Bool := c.toNat < 0x80

end Switchboard.Text
