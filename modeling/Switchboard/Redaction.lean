import Switchboard.Text.Blank

/-!
# Redaction

What looks like a credential is masked before a text is shown. From left to right, and from each
place as far as it goes, a credential is one of:

* `sk-` and six or more key characters,
* `AIza` and ten or more key characters,
* `Bearer`, blanks, and six or more token characters.
-/

namespace Switchboard

namespace Redaction

def isKeyChar (c : Char) : Bool := c.isAlphanum || c == '_' || c == '-'

def isTokenChar (c : Char) : Bool := isKeyChar c || c == '.'

/-- How many characters of class `ok` the text starts with, if there are at least `least`. -/
def run? (least : Nat) (ok : Char → Bool) (cs : List Char) : Option Nat :=
  let n := (cs.takeWhile ok).length
  if least ≤ n then some n else none

/-- The length of the credential the text starts with. -/
def credential? (cs : List Char) : Option Nat :=
  match cs with
  | 's' :: 'k' :: '-' :: rest => (run? 6 isKeyChar rest).map (· + 3)
  | 'A' :: 'I' :: 'z' :: 'a' :: rest => (run? 10 isKeyChar rest).map (· + 4)
  | 'B' :: 'e' :: 'a' :: 'r' :: 'e' :: 'r' :: rest =>
    let blanks := (rest.takeWhile Text.isBlank).length
    if blanks == 0 then none
    else (run? 6 isTokenChar (rest.drop blanks)).map (· + (6 + blanks))
  | _ => none

def mask : List Char := "[redacted]".toList

def redactChars : List Char → List Char
  | [] => []
  | c :: cs =>
    match credential? (c :: cs) with
    | some n => mask ++ redactChars (cs.drop (n - 1))
    | none => c :: redactChars cs
termination_by cs => cs.length
decreasing_by all_goals (simp; try omega)

end Redaction

/-- The text with everything that looks like a credential masked. -/
def redact (text : String) : String := String.ofList (Redaction.redactChars text.toList)

end Switchboard
