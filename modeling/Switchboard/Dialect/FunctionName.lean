/-!
# Function names

On the wire the name of a function is one or more of the letters and digits of ASCII, the low line
and the hyphen. Every other character of a tool's name is written as a low line.
-/

namespace Switchboard.FunctionName

def isNameChar (c : Char) : Bool := c.isAlphanum || c == '_' || c == '-'

def isValid (name : String) : Bool := !name.isEmpty && name.toList.all isNameChar

/-- The name with every character that may not be in one replaced. -/
def sanitize (name : String) : String :=
  String.ofList (name.toList.map fun c => if isNameChar c then c else '_')

end Switchboard.FunctionName
