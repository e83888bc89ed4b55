import Switchboard.Json.Printer
import Switchboard.Json.Reader
import Switchboard.Text.Blank

/-!
# Arguments of tool calls

The arguments of a tool call travel as text. A blank text stands for no arguments, and a text that
is not JSON stands for itself.
-/

namespace Switchboard.Arguments

def ofText (text : String) : Json :=
  if Text.blank text then .obj []
  else (Json.ofString? text).getD (.str text)

def text (arguments : Json) : String := arguments.render

end Switchboard.Arguments
