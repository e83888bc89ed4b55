/-!
# Blank characters

The characters with the Unicode property `White_Space`, and the trimming that goes by them. Trimming
twice trims once, and a blank text is one that trims to nothing.
-/

namespace Switchboard.Text

/-- The Unicode property `White_Space`. -/
def isBlank (c : Char) : Bool :=
  let n := c.toNat
  (9 ≤ n && n ≤ 13) || n == 0x20 || n == 0x85 || n == 0xA0 || n == 0x1680 ||
    (0x2000 ≤ n && n ≤ 0x200A) || n == 0x2028 || n == 0x2029 || n == 0x202F || n == 0x205F ||
    n == 0x3000

def trimStart (cs : List Char) : List Char := cs.dropWhile isBlank

def trimEnd (cs : List Char) : List Char := (cs.reverse.dropWhile isBlank).reverse

/-- Without the blanks at either end. -/
def trim (s : String) : String := String.ofList (trimEnd (trimStart s.toList))

/-- Nothing but blanks. -/
def blank (s : String) : Bool := s.toList.all isBlank

end Switchboard.Text
