import Switchboard.Text.Cut

/-!
# Requests to the server

A request has a method, a target with or without a query, headers in the order they were sent, and a
body that arrives in frames.
-/

namespace Switchboard

structure HttpRequest where
  method : String
  target : String
  headers : List (String × String)
  frames : List (List UInt8)

namespace HttpRequest

/-- The target without its query and its fragment. -/
def path (r : HttpRequest) : String :=
  String.ofList (r.target.toList.takeWhile fun c => c != '?' && c != '#')

/-- Characters of ASCII that can be seen, blanks and tabs. -/
def isVisible (c : Char) : Bool := (0x20 ≤ c.toNat && c.toNat < 0x7F) || c == '\t'

/-- The value of the first header of a name. One with characters that cannot be seen is none. -/
def header? (r : HttpRequest) (name : String) : Option String :=
  (r.headers.find? fun h => h.1.toLower == name).bind fun h =>
    if h.2.toList.all isVisible then some h.2 else none

/-- The whole body. -/
def body (r : HttpRequest) : List UInt8 := r.frames.flatten

end HttpRequest

end Switchboard
