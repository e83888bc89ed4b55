import Switchboard.Chat.Tool
import Switchboard.Failure

/-!
# Turns and declarations

What several dialects have in common. A conversation is a list of turns in which neighbours of one
role are merged, since the roles have to alternate. Tools are declared one by one, and some dialects
refuse two of one name.
-/

namespace Switchboard

/-- Blocks of content under the role they are sent with. -/
structure Turn where
  role : String
  blocks : List Json
deriving DecidableEq

namespace Turn

/-- A turn before others, merged with the first of them if the roles are equal. -/
def cons (t : Turn) : List Turn → List Turn
  | [] => [t]
  | u :: rest => if t.role = u.role then ⟨t.role, t.blocks ++ u.blocks⟩ :: rest else t :: u :: rest

/-- The turns with equal neighbours merged. -/
def merge : List Turn → List Turn
  | [] => []
  | t :: rest => cons t (merge rest)

/-- A turn as an object, its blocks under `key`. -/
def json (key : String) (t : Turn) : Json := .mkObj [("role", t.role), (key, .arr t.blocks)]

end Turn

namespace Tool

/-- The first name that an earlier tool, or one of `seen`, has already. -/
def repeatedName? (seen : List String) : List Tool → Option String
  | [] => none
  | t :: rest =>
    if seen.contains t.name then some t.name else repeatedName? (t.name :: seen) rest

/-- One declaration for each tool; two tools may not have one name. -/
def declareDistinct (declare : Tool → Json) (tools : List Tool) : Outcome (List Json) :=
  match repeatedName? [] tools with
  | some name => .error (.untranslatable ("Duplicate tool name: " ++ name))
  | none => .ok (tools.map declare)

end Tool

end Switchboard
