import Switchboard.Json.Fields

/-!
# Token usage

Counts of tokens, each of which may be unknown and none of which goes beyond 32 bits. Reports of one
call overlay each other; a total that nobody reports is the sum of what is known, as far as it fits.
-/

namespace Switchboard

open Document

/-- The greatest count. -/
def maxCount : Nat := Nat.pow 2 32 - 1

/-- The sum of two counts, as far as it fits. -/
def addCounts (a b : Nat) : Nat := min (a + b) maxCount

structure Usage where
  input : Option Nat
  output : Option Nat
  total : Option Nat
deriving DecidableEq, Repr

namespace Usage

/-- A report, its total being derived when both counts are known. -/
def of (input output total : Option Nat) : Usage :=
  { input, output
    total := total <|> match input, output with
      | some i, some o => some (addCounts i o)
      | _, _ => none }

/-- What a later report says laid over what is known. -/
def merge (known later : Usage) : Usage :=
  let input := later.input <|> known.input
  let output := later.output <|> known.output
  { input, output
    total := match later.total, input, output with
      | some total, _, _ => some total
      | none, some i, some o => some (addCounts i o)
      | none, _, _ => known.total }

private def countJson (n : Option Nat) : Json := n.elim .null .nat

def json (u : Usage) : Json :=
  .mkObj [("input_tokens", countJson u.input), ("output_tokens", countJson u.output),
    ("total_tokens", countJson u.total)]

def read (d : Document) : Reading Usage := do
  let fs ← d.fields ["input_tokens", "output_tokens", "total_tokens"] 3
  return ⟨← fieldOption "input_tokens" nat32 fs, ← fieldOption "output_tokens" nat32 fs,
    ← fieldOption "total_tokens" nat32 fs⟩

/-- The count under `key`, brought into range; anything but a non-negative integer is no count. -/
def countIn (j : Json) (key : String) : Option Nat :=
  (j.get key).nat?.map fun n => min n maxCount

/-- The report a provider writes under the given keys. -/
def ofJson (j : Json) (input output total : String) : Usage :=
  of (countIn j input) (countIn j output) (countIn j total)

end Usage

end Switchboard
